import Mathlib.Data.List.Induction
import ServiceContracts.Proofs.Document.Json.Token

/-!
# Written JSON is read back

The text of a tree is read as its value whatever follows it, as long as no number goes on there.

* `Tree.Fits` : a tree that is nested no deeper than the reader allows, with short numbers and
  different names in each object;
* `isRead_of_fits` : the text of such a tree is read from the start of a longer text;
* `read_write` : the whole text, with any indentation, is read as the value of the tree.
-/

namespace ServiceContracts.Document.Json
open Number Text

/-! ## Starts and gaps -/

section Starts
variable {c d : Char} {cs : List Char}

/-- A character with which the text of a tree may start. -/
def startsValue (c : Char) : Bool :=
  c == 'n' || c == '"' || c == '[' || c == '{' || c == '-' || isDigit c

theorem ne_of_startsValue (h : startsValue c = true) (hd : startsValue d = false) : c ≠ d := by
  rintro rfl
  rw [h] at hd
  cases hd

theorem isSpace_of_startsValue (h : startsValue c = true) : isSpace c = false := by
  by_contra hspace
  simp only [isSpace, Bool.not_eq_false, Bool.or_eq_true, beq_iff_eq] at hspace
  rcases hspace with ((rfl | rfl) | rfl) | rfl <;> exact absurd h (by decide)

theorem exists_cons_intText (i : Int) :
    ∃ c cs, intText i = c :: cs ∧ (c = '-' ∨ isDigit c = true) := by
  obtain ⟨d, ds, hds⟩ := List.exists_cons_of_ne_nil (natText_ne_nil i.natAbs)
  have hdigit : isDigit d = true := isDigit_of_mem_natText (n := i.natAbs) (by rw [hds]; simp)
  rw [intText, hds]
  split
  · exact ⟨'-', d :: ds, rfl, .inl rfl⟩
  · exact ⟨d, ds, rfl, .inr hdigit⟩

theorem exists_cons_writeAt (indent : Option Nat) (level : Nat) (t : Tree) :
    ∃ c cs, t.writeAt indent level = c :: cs ∧ startsValue c = true := by
  cases t with
  | null => exact ⟨'n', _, rfl, by decide⟩
  | count n =>
    obtain ⟨c, cs, heq, hc⟩ := exists_cons_intText n
    refine ⟨c, cs, heq, ?_⟩
    rcases hc with rfl | hc
    · decide
    · simp [startsValue, hc]
  | text s => exact ⟨'"', _, rfl, by decide⟩
  | list items =>
    refine ⟨'[', ?_⟩
    cases items with
    | nil => exact ⟨_, rfl, by decide⟩
    | cons item items => exact ⟨_, rfl, by decide⟩
  | object fields =>
    refine ⟨'{', ?_⟩
    cases fields with
    | nil => exact ⟨_, rfl, by decide⟩
    | cons field fields => exact ⟨_, rfl, by decide⟩

theorem skipSpaces_cons (h : isSpace c = false) : skipSpaces (c :: cs) = c :: cs :=
  List.dropWhile_cons_of_neg (by simp [h])

theorem skipSpaces_lineStart (indent : Option Nat) (level : Nat) (cs : List Char) :
    skipSpaces (lineStart indent level ++ cs) = skipSpaces cs := by
  apply List.dropWhile_append_of_pos
  intro c hc
  cases indent with
  | none => cases hc
  | some width =>
    rcases List.mem_cons.mp hc with rfl | hc
    · decide
    · rw [List.eq_of_mem_replicate hc]
      decide

theorem skipSpaces_writeAt (indent : Option Nat) (level : Nat) (t : Tree) (rest : List Char) :
    skipSpaces (t.writeAt indent level ++ rest) = t.writeAt indent level ++ rest := by
  obtain ⟨c, cs, heq, hc⟩ := exists_cons_writeAt indent level t
  rw [heq]
  exact skipSpaces_cons (isSpace_of_startsValue hc)

theorem endsNumber_lineStart (hc : isDigit c = false ∧ c ≠ '.' ∧ c ≠ 'e' ∧ c ≠ 'E')
    (indent : Option Nat) (level : Nat) (cs : List Char) :
    EndsNumber (lineStart indent level ++ c :: cs) := by
  cases indent with
  | none =>
    rintro _ ⟨⟩
    exact hc
  | some width =>
    rintro _ ⟨⟩
    decide

end Starts

/-! ## Values -/

/-- A tree whose text can be read: lists and objects are nested at most `depth` times, numbers are
short enough, and the names in an object differ. -/
inductive Tree.Fits : Nat → Tree → Prop
  | null {depth : Nat} : Fits depth .null
  | count {depth : Nat} {n : Int} (h : IsShort n) : Fits depth (.count n)
  | text {depth : Nat} {s : String} : Fits depth (.text s)
  | list {depth : Nat} {items : List Tree} (h : ∀ t ∈ items, Fits depth t) :
      Fits (depth + 1) (.list items)
  | object {depth : Nat} {fields : List (String × Tree)} (hnames : (fields.map Prod.fst).Nodup)
      (h : ∀ field ∈ fields, Fits depth field.2) : Fits (depth + 1) (.object fields)

/-- The text of the tree is read as its value if the steps are enough, whatever follows it. -/
def Tree.IsRead (indent : Option Nat) (depth : Nat) (t : Tree) : Prop :=
  ∀ level fuel rest, EndsNumber rest → 2 * (t.writeAt indent level).length ≤ fuel →
    readValue fuel depth (t.writeAt indent level ++ rest) = .ok (t.value, rest)

section Values
variable {indent : Option Nat} {depth : Nat} {t : Tree}

theorem readValue_of_number? {c : Char} {cs rest : List Char} {v : Value} (hquote : c ≠ '"')
    (hbracket : c ≠ '[') (hbrace : c ≠ '{') (hconstant : constant? (c :: cs) = none)
    (hnumber : readNumber? (c :: cs) = some (.ok v, rest)) (fuel depth : Nat) :
    readValue (fuel + 1) depth (c :: cs) = .ok (v, rest) := by
  rw [readValue, hconstant]
  · simp only [hnumber]
  all_goals
    intros
    simp_all

theorem constant?_digit {c : Char} (hc : isDigit c = true) (cs : List Char) :
    constant? (c :: cs) = none ∧ constant? ('-' :: c :: cs) = none := by
  have hne : ∀ d, isDigit d = false → d ≠ c := by
    rintro d hd rfl
    rw [hc] at hd
    cases hd
  have hn := hne 'n' rfl
  have ht := hne 't' rfl
  have hf := hne 'f' rfl
  have hnan := hne 'N' rfl
  have hinfinity := hne 'I' rfl
  have hminus := hne '-' rfl
  constructor
  · simp [constant?, constants, hn, ht, hf, hnan, hinfinity, hminus]
  · simp [constant?, constants, hinfinity]

theorem constant?_intText (i : Int) (rest : List Char) : constant? (intText i ++ rest) = none := by
  obtain ⟨d, ds, hds⟩ := List.exists_cons_of_ne_nil (natText_ne_nil i.natAbs)
  have hd : isDigit d = true := isDigit_of_mem_natText (n := i.natAbs) (by rw [hds]; simp)
  rw [intText, hds]
  split
  · exact (constant?_digit hd (ds ++ rest)).2
  · exact (constant?_digit hd (ds ++ rest)).1

theorem exists_step {indent : Option Nat} {level fuel : Nat} {t : Tree}
    (h : 2 * (t.writeAt indent level).length ≤ fuel) : ∃ steps, fuel = steps + 1 := by
  obtain ⟨c, cs, heq, -⟩ := exists_cons_writeAt indent level t
  rw [heq, List.length_cons] at h
  exact ⟨fuel - 1, by omega⟩

theorem isRead_null : Tree.null.IsRead indent depth := by
  intro level fuel rest _ hfuel
  obtain ⟨steps, rfl⟩ := exists_step hfuel
  rfl

theorem isRead_count {n : Int} (hn : IsShort n) : (Tree.count n).IsRead indent depth := by
  intro level fuel rest hrest hfuel
  obtain ⟨steps, rfl⟩ := exists_step hfuel
  obtain ⟨c, cs, heq, hc⟩ := exists_cons_intText n
  have hplain : c ≠ '"' ∧ c ≠ '[' ∧ c ≠ '{' := by
    refine ⟨?_, ?_, ?_⟩ <;> rintro rfl <;> revert hc <;> decide
  have hconstant := constant?_intText n rest
  have hnumber := readNumber?_intText hn hrest
  rw [heq, List.cons_append] at hconstant hnumber
  rw [Tree.writeAt, heq, List.cons_append]
  exact readValue_of_number? hplain.1 hplain.2.1 hplain.2.2 hconstant hnumber steps depth

theorem quote_append (s : String) (rest : List Char) :
    quote s ++ rest = '"' :: (s.toList.flatMap escaped ++ '"' :: rest) := by
  simp [quote]

theorem isRead_text {s : String} : (Tree.text s).IsRead indent depth := by
  intro level fuel rest _ hfuel
  obtain ⟨steps, rfl⟩ := exists_step hfuel
  rw [Tree.writeAt, quote_append, readValue, readString_flatMap]
  simp only [bind, Except.bind, String.ofList_toList, Tree.value]

end Values

/-! ## Lists -/

section Lists
variable {indent : Option Nat} {depth : Nat} {tail rest : List Char}

theorem endsNumber_comma (rest : List Char) : EndsNumber (',' :: rest) := by
  rintro _ ⟨⟩
  decide

theorem skipSpaces_comma (rest : List Char) : skipSpaces (',' :: rest) = ',' :: rest :=
  skipSpaces_cons (by decide)

theorem writeItems_append (indent : Option Nat) (level : Nat) (item : Tree) (items : List Tree)
    (tail : List Char) : Tree.writeItems indent level (item :: items) ++ tail =
      ',' :: (lineStart indent level ++
        (item.writeAt indent level ++ (Tree.writeItems indent level items ++ tail))) := by
  simp [Tree.writeItems]

/-- The items of a list are read up to the bracket behind them. -/
theorem readItems_writeItems (level : Nat) (htail : EndsNumber tail)
    (hclose : skipSpaces tail = ']' :: rest) (items : List Tree) : ∀ (item : Tree) (fuel : Nat),
      (∀ t ∈ item :: items, t.IsRead indent depth) →
      2 * (item.writeAt indent level ++ Tree.writeItems indent level items).length + 1 ≤ fuel →
      readItems fuel depth
        (item.writeAt indent level ++ (Tree.writeItems indent level items ++ tail)) =
        .ok (item.value :: Tree.values items, rest) := by
  induction items with
  | nil =>
    intro item fuel hread hfuel
    obtain ⟨steps, rfl⟩ : ∃ steps, fuel = steps + 1 := ⟨fuel - 1, by omega⟩
    rw [Tree.writeItems, List.append_nil] at hfuel
    have hitem := hread item List.mem_cons_self level steps tail htail (by omega)
    rw [readItems, Tree.writeItems, List.nil_append, hitem]
    simp only [bind, Except.bind, hclose, Tree.values]
  | cons next items ih =>
    intro item fuel hread hfuel
    obtain ⟨steps, rfl⟩ : ∃ steps, fuel = steps + 1 := ⟨fuel - 1, by omega⟩
    simp only [Tree.writeItems, List.length_append, List.length_cons] at hfuel
    have hitems := ih next steps (fun t ht => hread t (List.mem_cons_of_mem _ ht))
      (by rw [List.length_append]; omega)
    rw [readItems, writeItems_append,
      hread item List.mem_cons_self level steps _ (endsNumber_comma _) (by omega)]
    simp only [bind, Except.bind, skipSpaces_comma, skipSpaces_lineStart, skipSpaces_writeAt,
      hitems, Tree.values]

theorem readValue_list {c : Char} {body cs : List Char} {items : List Value} {fuel : Nat}
    (hbody : skipSpaces body = c :: cs) (hc : c ≠ ']')
    (hitems : readItems fuel depth (c :: cs) = .ok (items, rest)) :
    readValue (fuel + 1) (depth + 1) ('[' :: body) = .ok (.list items, rest) := by
  rw [readValue, hbody]
  split
  · rename_i heq
    exact absurd (List.cons.inj heq).1 hc
  · rw [hitems]
    rfl

theorem writeAt_list_append (indent : Option Nat) (level : Nat) (item : Tree) (items : List Tree)
    (rest : List Char) : (Tree.list (item :: items)).writeAt indent level ++ rest =
      '[' :: (lineStart indent (level + 1) ++ (item.writeAt indent (level + 1) ++
        (Tree.writeItems indent (level + 1) items ++ (lineStart indent level ++ ']' :: rest)))) := by
  simp [Tree.writeAt]

theorem isRead_list {items : List Tree} (h : ∀ t ∈ items, t.IsRead indent depth) :
    (Tree.list items).IsRead indent (depth + 1) := by
  intro level fuel rest _ hfuel
  obtain ⟨steps, rfl⟩ := exists_step hfuel
  cases items with
  | nil => rfl
  | cons item items =>
    have htail : EndsNumber (lineStart indent level ++ ']' :: rest) :=
      endsNumber_lineStart (by decide) indent level rest
    have hclose : skipSpaces (lineStart indent level ++ ']' :: rest) = ']' :: rest := by
      rw [skipSpaces_lineStart, skipSpaces_cons (by decide)]
    simp only [Tree.writeAt, List.length_append, List.length_cons] at hfuel
    have hitems := readItems_writeItems (level + 1) htail hclose items item steps h
      (by rw [List.length_append]; omega)
    obtain ⟨c, cs, heq, hc⟩ := exists_cons_writeAt indent (level + 1) item
    rw [heq] at hitems
    rw [writeAt_list_append, heq]
    refine readValue_list ?_ (ne_of_startsValue hc (by decide)) hitems
    rw [skipSpaces_lineStart]
    exact skipSpaces_cons (isSpace_of_startsValue hc)

end Lists

/-! ## Objects -/

section Objects
variable {indent : Option Nat} {depth level : Nat} {tail rest : List Char}

theorem put_of_fresh {entries : List (Value × Value)} {key : Value}
    (h : ∀ entry ∈ entries, entry.1.sameKey key = false) (value : Value) :
    Value.put entries key value = entries ++ [(key, value)] := by
  induction entries with
  | nil => rfl
  | cons entry entries ih =>
    rw [List.forall_mem_cons] at h
    rw [Value.put, h.1, if_neg (by decide), ih h.2, List.cons_append]

/-- Entries under different keys stay as they are. -/
theorem ofEntries_of_pairwise {entries : List (Value × Value)}
    (h : entries.Pairwise fun a b => a.1.sameKey b.1 = false) :
    Value.ofEntries entries = .map entries := by
  rw [Value.ofEntries, Value.map.injEq]
  induction entries using List.reverseRecOn with
  | nil => rfl
  | append_singleton entries entry ih =>
    obtain ⟨hfront, -, hentry⟩ := List.pairwise_append.mp h
    rw [List.foldl_append, ih hfront, List.foldl_cons, List.foldl_nil]
    exact put_of_fresh (fun other hother => hentry other hother entry List.mem_cons_self) _

theorem ofEntries_entries {fields : List (String × Tree)} (h : (fields.map Prod.fst).Nodup) :
    Value.ofEntries (Tree.entries fields) = .map (Tree.entries fields) := by
  apply ofEntries_of_pairwise
  rw [Tree.entries_eq_map, List.pairwise_map]
  refine (List.pairwise_map.mp h).imp ?_
  intro a b hne
  simpa [Value.sameKey, Value.integer?] using hne

theorem skipSpaces_fieldMark (indent : Option Nat) (cs : List Char) :
    ∃ gap, skipSpaces (fieldMark indent ++ cs) = ':' :: gap ∧ skipSpaces gap = skipSpaces cs := by
  cases indent with
  | none => exact ⟨cs, skipSpaces_cons (by decide), rfl⟩
  | some width => exact ⟨' ' :: cs, skipSpaces_cons (by decide), rfl⟩

section Entry
variable {name : String} {t : Tree} {fuel : Nat} (ht : t.IsRead indent depth)
  (htail : EndsNumber tail) (hfuel : 2 * (t.writeAt indent level).length ≤ fuel)
include ht htail hfuel

theorem readEntries_last (hclose : skipSpaces tail = '}' :: rest) :
    readEntries (fuel + 1) depth
      (quote name ++ (fieldMark indent ++ (t.writeAt indent level ++ tail))) =
      .ok ([(.text name, t.value)], rest) := by
  obtain ⟨gap, hmark, hgap⟩ := skipSpaces_fieldMark indent (t.writeAt indent level ++ tail)
  rw [quote_append, readEntries, readString_flatMap]
  simp only [bind, Except.bind, hmark, hgap, skipSpaces_writeAt, ht level fuel tail htail hfuel,
    hclose, String.ofList_toList]

theorem readEntries_next {more : List Char} {entries : List (Value × Value)}
    (hcomma : skipSpaces tail = ',' :: more)
    (hentries : readEntries fuel depth (skipSpaces more) = .ok (entries, rest)) :
    readEntries (fuel + 1) depth
      (quote name ++ (fieldMark indent ++ (t.writeAt indent level ++ tail))) =
      .ok ((.text name, t.value) :: entries, rest) := by
  obtain ⟨gap, hmark, hgap⟩ := skipSpaces_fieldMark indent (t.writeAt indent level ++ tail)
  rw [quote_append, readEntries, readString_flatMap]
  simp only [bind, Except.bind, hmark, hgap, skipSpaces_writeAt, ht level fuel tail htail hfuel,
    hcomma, hentries, String.ofList_toList]

end Entry

theorem writeFields_append (indent : Option Nat) (level : Nat) (name : String) (t : Tree)
    (fields : List (String × Tree)) (tail : List Char) :
    Tree.writeFields indent level ((name, t) :: fields) ++ tail =
      ',' :: (lineStart indent level ++ (quote name ++ (fieldMark indent ++
        (t.writeAt indent level ++ (Tree.writeFields indent level fields ++ tail))))) := by
  simp [Tree.writeFields]

theorem skipSpaces_quote (name : String) (cs : List Char) :
    skipSpaces (quote name ++ cs) = quote name ++ cs :=
  skipSpaces_cons (by decide)

/-- The entries of a map are read up to the brace behind them. -/
theorem readEntries_writeFields (level : Nat) (htail : EndsNumber tail)
    (hclose : skipSpaces tail = '}' :: rest) (fields : List (String × Tree)) :
    ∀ (name : String) (t : Tree) (fuel : Nat),
      (∀ field ∈ (name, t) :: fields, field.2.IsRead indent depth) →
      2 * (t.writeAt indent level ++ Tree.writeFields indent level fields).length + 1 ≤ fuel →
      readEntries fuel depth (quote name ++ (fieldMark indent ++
        (t.writeAt indent level ++ (Tree.writeFields indent level fields ++ tail)))) =
        .ok (Tree.entries ((name, t) :: fields), rest) := by
  induction fields with
  | nil =>
    intro name t fuel hread hfuel
    obtain ⟨steps, rfl⟩ : ∃ steps, fuel = steps + 1 := ⟨fuel - 1, by omega⟩
    have ht : t.IsRead indent depth := hread (name, t) List.mem_cons_self
    rw [Tree.writeFields, List.append_nil] at hfuel
    rw [Tree.writeFields, List.nil_append]
    exact readEntries_last ht htail (by omega) hclose
  | cons next fields ih =>
    intro name t fuel hread hfuel
    obtain ⟨steps, rfl⟩ : ∃ steps, fuel = steps + 1 := ⟨fuel - 1, by omega⟩
    simp only [Tree.writeFields, List.length_append, List.length_cons] at hfuel
    have hentries := ih next.1 next.2 steps
      (fun field hfield => hread field (List.mem_cons_of_mem _ hfield))
      (by rw [List.length_append]; omega)
    have ht : t.IsRead indent depth := hread (name, t) List.mem_cons_self
    rw [writeFields_append]
    refine readEntries_next ht (endsNumber_comma _) (by omega) (skipSpaces_comma _) ?_
    rw [skipSpaces_lineStart, skipSpaces_quote]
    exact hentries

theorem readValue_map {c : Char} {body cs : List Char} {entries : List (Value × Value)}
    {fuel : Nat} (hbody : skipSpaces body = c :: cs) (hc : c ≠ '}')
    (hentries : readEntries fuel depth (c :: cs) = .ok (entries, rest)) :
    readValue (fuel + 1) (depth + 1) ('{' :: body) = .ok (.ofEntries entries, rest) := by
  rw [readValue, hbody]
  split
  · rename_i heq
    exact absurd (List.cons.inj heq).1 hc
  · rw [hentries]
    rfl

theorem writeAt_object_append (indent : Option Nat) (level : Nat) (name : String) (t : Tree)
    (fields : List (String × Tree)) (rest : List Char) :
    (Tree.object ((name, t) :: fields)).writeAt indent level ++ rest =
      '{' :: (lineStart indent (level + 1) ++ (quote name ++ (fieldMark indent ++
        (t.writeAt indent (level + 1) ++ (Tree.writeFields indent (level + 1) fields ++
          (lineStart indent level ++ '}' :: rest)))))) := by
  simp [Tree.writeAt]

theorem isRead_object {fields : List (String × Tree)} (hnames : (fields.map Prod.fst).Nodup)
    (h : ∀ field ∈ fields, field.2.IsRead indent depth) :
    (Tree.object fields).IsRead indent (depth + 1) := by
  intro level fuel rest _ hfuel
  obtain ⟨steps, rfl⟩ := exists_step hfuel
  cases fields with
  | nil => rfl
  | cons field fields =>
    have htail : EndsNumber (lineStart indent level ++ '}' :: rest) :=
      endsNumber_lineStart (by decide) indent level rest
    have hclose : skipSpaces (lineStart indent level ++ '}' :: rest) = '}' :: rest := by
      rw [skipSpaces_lineStart, skipSpaces_cons (by decide)]
    simp only [Tree.writeAt, List.length_append, List.length_cons] at hfuel
    have hentries := readEntries_writeFields (level + 1) htail hclose fields field.1
      field.2 steps h (by rw [List.length_append]; omega)
    rw [writeAt_object_append, Tree.value, ← ofEntries_entries hnames]
    rw [quote_append] at hentries ⊢
    refine readValue_map ?_ (by decide) hentries
    rw [skipSpaces_lineStart]
    exact skipSpaces_cons (by decide)

end Objects

/-! ## Whole texts -/

theorem isRead_of_fits {depth : Nat} {t : Tree} (h : t.Fits depth) (indent : Option Nat) :
    t.IsRead indent depth := by
  induction h with
  | null => exact isRead_null
  | count h => exact isRead_count h
  | text => exact isRead_text
  | list h ih => exact isRead_list ih
  | object hnames h ih => exact isRead_object hnames ih

/-- What is written with some indentation is read as the value of the tree. -/
theorem read_write {t : Tree} (h : t.Fits depthLimit) (indent : Option Nat) :
    read (t.write indent) = .ok t.value := by
  obtain ⟨c, cs, heq, hc⟩ := exists_cons_writeAt indent 0 t
  have hmark : (t.writeAt indent 0).head? ≠ some '\uFEFF' := by
    rw [heq]
    exact fun hmark => ne_of_startsValue hc (by decide) (Option.some.inj hmark)
  have hvalue := isRead_of_fits h indent 0 (2 * (t.writeAt indent 0).length + 2) []
    (by rintro _ ⟨⟩) (by omega)
  have hspaces := skipSpaces_writeAt indent 0 t []
  rw [List.append_nil] at hvalue hspaces
  have hwhole : readWhole (t.writeAt indent 0) = .ok t.value := by
    rw [readWhole, if_neg hmark, hspaces, hvalue]
    rfl
  rw [read, Tree.write, String.toList_ofList, hwhole]

end ServiceContracts.Document.Json
