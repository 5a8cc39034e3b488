import ServiceContracts.Interpolation
import ServiceContracts.Proofs.Text.Lower
import ServiceContracts.Proofs.Text.Trim

/-!
# What becomes of interpolations

* `isIdentifier_chars`, `trimChars_identifier` : the characters of an identifier; none is blank;
* `not_mem_parameter` : a parameter is one segment of a path, whatever its interpolation holds;
* `expand_append_of_not_mem`, `expand_spelling_append` : expanding from left to right;
* `IsPiece`, `IsPiece.expand_append` : a text that is expanded by itself;
* `HoldsInterpolation`, `first?_eq_none_iff` : when there is something to expand;
* `expand_append_of_brace_not_mem` : nothing is expanded behind the last closing brace;
* `expand_of_not_holds`, `count_expand_lt` : a text without interpolations stays as it is, any other
  one has fewer closing braces afterwards.
-/

namespace ServiceContracts.Interpolation
open Text

/-! ## Identifiers -/

theorem isBlank_of_isWord {c : Char} (h : isWord c = true) : isBlank c = false :=
  isBlank_of_class (by decide +kernel) h

theorem isIdentifier_chars {name : List Char} (h : isIdentifier name = true) :
    ∀ c ∈ name, isWord c = true ∨ c = '$' ∨ c = '.' := by
  cases name with
  | nil => exact fun c hc => absurd hc List.not_mem_nil
  | cons d name =>
    simp only [isIdentifier, Bool.and_eq_true, Bool.or_eq_true, beq_iff_eq, List.all_eq_true] at h
    obtain ⟨hd, hname⟩ := h
    refine List.forall_mem_cons.mpr ⟨?_, ?_⟩
    · rcases hd with (hd | rfl) | rfl
      · left
        rw [isWord, if_pos (toNat_lt_of_isLetter hd), hd]
        rfl
      · exact .inl (by decide)
      · exact .inr (.inl rfl)
    · intro c hc
      have := hname c hc
      tauto

theorem isIdentifier_ne_nil {name : List Char} (h : isIdentifier name = true) : name ≠ [] := by
  rintro rfl
  cases h

/-- A mark that identifiers do not know is in none of them. -/
theorem not_mem_identifier {name : List Char} {c : Char} (h : isIdentifier name = true)
    (hword : isWord c = false) (hdollar : c ≠ '$') (hdot : c ≠ '.') : c ∉ name := by
  intro hc
  rcases isIdentifier_chars h c hc with hc | hc | hc
  · rw [hword] at hc
    cases hc
  · exact hdollar hc
  · exact hdot hc

theorem isBlank_identifier {name : List Char} (h : isIdentifier name = true) :
    ∀ c ∈ name, isBlank c = false := by
  intro c hc
  rcases isIdentifier_chars h c hc with hword | rfl | rfl
  · exact isBlank_of_isWord hword
  · decide
  · decide

theorem trimChars_identifier {name : List Char} (h : isIdentifier name = true) :
    trimChars name = name :=
  trimChars_eq_self (isBlank_identifier h)

/-! ## Parameters -/

section Parameter
variable (inner : List Char)

theorem head?_parameter : (parameter inner).head? = some ':' := by
  rw [parameter]
  split
  · rfl
  · rfl

theorem parameter_ne_nil : parameter inner ≠ [] := by
  intro h
  have := head?_parameter inner
  rw [h] at this
  cases this

/-- No mark of a URL is in a parameter: an identifier has none, lower case brings in none, and the
name for other expressions has none. -/
theorem not_mem_parameter {c : Char} (hpos : 0 < c.toNat) (hcode : isLowerCode c.toNat = false)
    (hword : isWord c = false) (hdollar : c ≠ '$') (hdot : c ≠ '.') (hcolon : c ≠ ':') :
    c ∉ parameter inner := by
  rw [parameter]
  split
  · next hname =>
    intro hc
    rcases List.mem_cons.mp hc with rfl | hc
    · exact hcolon rfl
    · exact not_mem_identifier hname hword hdollar hdot (mem_of_mem_lowerChars hpos hcode hc)
  · intro hc
    have hletters : ":param".toList.all (fun d => d == ':' || isLowerCode d.toNat) = true := by
      decide
    have hc := List.all_eq_true.mp hletters c hc
    rw [hcode, Bool.or_false, beq_iff_eq] at hc
    exact hcolon hc

end Parameter

/-! ## Expanding -/

section Expand
variable {cs inner t : List Char}

theorem enclosed?_append (h : '}' ∉ inner) (rest : List Char) :
    enclosed? (inner ++ '}' :: rest) = some (inner, rest) := by
  induction inner with
  | nil => rfl
  | cons c inner ih =>
    obtain ⟨hc, hinner⟩ := List.ne_and_not_mem_of_not_mem_cons h
    rw [List.cons_append, enclosed?, if_neg (Ne.symm hc), ih hinner]
    rfl

theorem spelling_append (inner rest : List Char) :
    spelling inner ++ rest = '$' :: '{' :: (inner ++ '}' :: rest) := by
  simp [spelling]

theorem atStart?_spelling (h : '}' ∉ inner) (rest : List Char) :
    atStart? (spelling inner ++ rest) = some (inner, rest) := by
  rw [spelling_append, atStart?, enclosed?_append h]

theorem atStart?_of_ne {c : Char} (h : c ≠ '$') (rest : List Char) :
    atStart? (c :: rest) = none := by
  rw [atStart?]
  rintro cs heq
  cases heq
  exact h rfl

theorem first?_append_of_not_mem (h : '$' ∉ cs) (rest : List Char) :
    first? (cs ++ rest) = first? rest := by
  induction cs with
  | nil => rfl
  | cons c cs ih =>
    obtain ⟨hc, hcs⟩ := List.ne_and_not_mem_of_not_mem_cons h
    rw [List.cons_append, first?, atStart?_of_ne (Ne.symm hc)]
    exact ih hcs

theorem first?_of_not_mem (h : '$' ∉ cs) : first? cs = none := by
  simpa [first?] using first?_append_of_not_mem h []

theorem first?_spelling_append (h : '}' ∉ inner) (rest : List Char) :
    first? (spelling inner ++ rest) = some inner := by
  have hstart := atStart?_spelling h rest
  rw [spelling_append] at hstart ⊢
  rw [first?, hstart]

theorem expandFrom_length (cs rest : List Char) :
    expandFrom cs.length (cs ++ rest) = expandFrom 0 rest := by
  induction cs with
  | nil => rfl
  | cons c cs ih => exact ih

/-- The leftmost interpolation is replaced, and what follows is expanded by itself. -/
theorem expand_spelling_append (h : '}' ∉ inner) (rest : List Char) :
    expand (spelling inner ++ rest) = parameter inner ++ expand rest := by
  have hstart := atStart?_spelling h rest
  rw [spelling_append] at hstart ⊢
  have hskip := expandFrom_length ('{' :: inner ++ ['}']) rest
  rw [expand, expandFrom, hstart]
  show parameter inner ++ expandFrom (inner.length + 2) _ = _
  simpa [expand] using hskip

theorem expand_append_of_not_mem (h : '$' ∉ cs) (rest : List Char) :
    expand (cs ++ rest) = cs ++ expand rest := by
  induction cs with
  | nil => rfl
  | cons c cs ih =>
    obtain ⟨hc, hcs⟩ := List.ne_and_not_mem_of_not_mem_cons h
    rw [List.cons_append, expand, expandFrom, atStart?_of_ne (Ne.symm hc)]
    exact congrArg (c :: ·) (ih hcs)

theorem expand_of_not_mem (h : '$' ∉ cs) : expand cs = cs := by
  simpa [expand, expandFrom] using expand_append_of_not_mem h []

theorem expand_spelling (h : '}' ∉ inner) : expand (spelling inner) = parameter inner := by
  simpa [expand, expandFrom] using expand_spelling_append h []

/-- A text without dollar signs, or one interpolation. -/
def IsPiece (t : List Char) : Prop := '$' ∉ t ∨ ∃ inner, '}' ∉ inner ∧ t = spelling inner

/-- A piece is expanded by itself, whatever follows it. -/
theorem IsPiece.expand_append (h : IsPiece t) (rest : List Char) :
    expand (t ++ rest) = expand t ++ expand rest := by
  rcases h with h | ⟨inner, h, rfl⟩
  · rw [expand_append_of_not_mem h, expand_of_not_mem h]
  · rw [expand_spelling_append h, expand_spelling h]

end Expand

/-! ## Texts with interpolations -/

/-- Somewhere the text holds an interpolation. -/
def HoldsInterpolation (cs : List Char) : Prop :=
  ∃ front inner rest, cs = front ++ (spelling inner ++ rest)

section Holds
variable {cs inner rest : List Char}

theorem enclosed?_eq_none_iff : enclosed? cs = none ↔ '}' ∉ cs := by
  induction cs with
  | nil => simp [enclosed?]
  | cons c cs ih =>
    rw [enclosed?, List.mem_cons, not_or, ← ih]
    by_cases hc : c = '}'
    · simp [hc]
    · simp [hc, Ne.symm hc]

theorem enclosed?_eq_some (h : enclosed? cs = some (inner, rest)) :
    '}' ∉ inner ∧ cs = inner ++ '}' :: rest := by
  induction cs generalizing inner with
  | nil => cases h
  | cons c cs ih =>
    rw [enclosed?] at h
    split at h
    · next hc =>
      cases h
      exact ⟨List.not_mem_nil, by rw [hc, List.nil_append]⟩
    · next hc =>
      obtain ⟨⟨inner, rest⟩, henclosed, heq⟩ := Option.map_eq_some_iff.mp h
      cases heq
      obtain ⟨hinner, rfl⟩ := ih henclosed
      exact ⟨by simp [hinner, Ne.symm hc], rfl⟩

theorem atStart?_eq_some (h : atStart? cs = some (inner, rest)) :
    '}' ∉ inner ∧ cs = spelling inner ++ rest := by
  unfold atStart? at h
  split at h
  · obtain ⟨hinner, rfl⟩ := enclosed?_eq_some h
    exact ⟨hinner, (spelling_append inner rest).symm⟩
  · cases h

theorem expand_cons_of_atStart?_eq_none {c : Char} (h : atStart? (c :: cs) = none) :
    expand (c :: cs) = c :: expand cs := by
  rw [expand, expandFrom, h]
  rfl

/-- What is expanded first, and what becomes of the text around it. -/
theorem exists_of_first? (h : first? cs = some inner) : ∃ front rest, '}' ∉ inner ∧
    cs = front ++ (spelling inner ++ rest) ∧
      expand cs = front ++ (parameter inner ++ expand rest) := by
  induction cs with
  | nil => cases h
  | cons c cs ih =>
    rw [first?] at h
    split at h
    · next rest hstart =>
      cases h
      obtain ⟨hinner, heq⟩ := atStart?_eq_some hstart
      rw [heq]
      exact ⟨[], rest, hinner, rfl, expand_spelling_append hinner rest⟩
    · next hstart =>
      obtain ⟨front, rest, hinner, rfl, hexpand⟩ := ih h
      refine ⟨c :: front, rest, hinner, rfl, ?_⟩
      rw [expand_cons_of_atStart?_eq_none hstart, hexpand, List.cons_append]

/-- The search finds an interpolation just if there is one. -/
theorem first?_eq_none_iff : first? cs = none ↔ ¬ HoldsInterpolation cs := by
  constructor
  · rintro h ⟨front, inner, rest, rfl⟩
    induction front with
    | nil =>
      rw [List.nil_append, spelling_append, first?] at h
      split at h
      · cases h
      · next hstart =>
        rw [atStart?, enclosed?_eq_none_iff] at hstart
        simp at hstart
    | cons c front ih =>
      rw [List.cons_append, first?] at h
      split at h
      · cases h
      · exact ih h
  · intro h
    cases hfirst : first? cs with
    | none => rfl
    | some inner =>
      obtain ⟨front, rest, -, heq, -⟩ := exists_of_first? hfirst
      exact absurd ⟨front, inner, rest, heq⟩ h

theorem exists_of_holds (h : HoldsInterpolation cs) : ∃ inner, first? cs = some inner :=
  Option.ne_none_iff_exists'.mp fun hnone => first?_eq_none_iff.mp hnone h

theorem expand_of_not_holds (h : ¬ HoldsInterpolation cs) : expand cs = cs := by
  rw [← first?_eq_none_iff] at h
  induction cs with
  | nil => rfl
  | cons c cs ih =>
    rw [first?] at h
    split at h
    · cases h
    · next hstart => rw [expand_cons_of_atStart?_eq_none hstart, ih h]

theorem enclosed?_append_of_not_mem (h : '}' ∉ rest) (cs : List Char) :
    enclosed? (cs ++ rest) = (enclosed? cs).map fun (inner, back) => (inner, back ++ rest) := by
  induction cs with
  | nil => exact enclosed?_eq_none_iff.mpr h
  | cons c cs ih =>
    rw [List.cons_append, enclosed?, enclosed?, ih]
    split
    · rfl
    · cases enclosed? cs <;> rfl

theorem atStart?_of_brace_not_mem (h : '}' ∉ rest) : atStart? rest = none := by
  unfold atStart?
  split
  · next cs => exact enclosed?_eq_none_iff.mpr (mt (by simp +contextual) h)
  · rfl

theorem atStart?_append_of_not_mem (h : '}' ∉ rest) (cs : List Char) :
    atStart? (cs ++ rest) = (atStart? cs).map fun (inner, back) => (inner, back ++ rest) := by
  cases cs with
  | nil => exact atStart?_of_brace_not_mem h
  | cons c cs =>
    by_cases hc : c = '$'
    · subst hc
      cases cs with
      | nil => exact atStart?_of_brace_not_mem (by simp [h])
      | cons d cs =>
        by_cases hd : d = '{'
        · subst hd
          exact enclosed?_append_of_not_mem h cs
        · simp [atStart?, hd]
    · rw [List.cons_append, atStart?_of_ne hc, atStart?_of_ne hc]
      rfl

/-- The skipped characters belong to the text in front, so that the induction goes through. -/
theorem expandFrom_append_of_not_mem (h : '}' ∉ rest) {skip : Nat} (hskip : skip ≤ cs.length) :
    expandFrom skip (cs ++ rest) = expandFrom skip cs ++ rest := by
  induction cs generalizing skip with
  | nil =>
    obtain rfl : skip = 0 := Nat.le_zero.mp hskip
    refine expand_of_not_holds ?_
    rintro ⟨front, inner, back, rfl⟩
    simp [spelling] at h
  | cons c cs ih =>
    cases skip with
    | succ skip => exact ih (Nat.le_of_succ_le_succ hskip)
    | zero =>
      rw [List.cons_append, expandFrom, expandFrom, ← List.cons_append,
        atStart?_append_of_not_mem h]
      cases hstart : atStart? (c :: cs) with
      | none => exact congrArg (c :: ·) (ih (Nat.zero_le _))
      | some found =>
        obtain ⟨inner, back⟩ := found
        have hlength : inner.length + 2 ≤ cs.length := by
          have := congrArg List.length (atStart?_eq_some hstart).2
          simp [spelling] at this
          omega
        show parameter inner ++ expandFrom _ _ = _
        rw [ih hlength, List.append_assoc]

/-- Behind the last closing brace nothing is expanded. -/
theorem expand_append_of_brace_not_mem (h : '}' ∉ rest) (cs : List Char) :
    expand (cs ++ rest) = expand cs ++ rest :=
  expandFrom_append_of_not_mem h (Nat.zero_le _)

theorem brace_not_mem_parameter (inner : List Char) : '}' ∉ parameter inner :=
  not_mem_parameter inner (by decide) (by decide) (by decide) (by decide) (by decide) (by decide)

/-- Expanding brings in no closing brace. -/
theorem count_expand_le (cs : List Char) : (expand cs).count '}' ≤ cs.count '}' := by
  induction hlength : cs.length using Nat.strong_induction_on generalizing cs with
  | _ n ih =>
    by_cases h : HoldsInterpolation cs
    · obtain ⟨inner, hfirst⟩ := exists_of_holds h
      obtain ⟨front, rest, -, rfl, hexpand⟩ := exists_of_first? hfirst
      have hrest := ih rest.length (by simp [spelling] at hlength; omega) rest rfl
      simp only [hexpand, List.count_append, List.count_eq_zero_of_not_mem
        (brace_not_mem_parameter inner)]
      omega
    · rw [expand_of_not_holds h]

/-- Every interpolation that is expanded takes its closing brace with it. -/
theorem count_expand_lt (h : HoldsInterpolation cs) : (expand cs).count '}' < cs.count '}' := by
  obtain ⟨inner, hfirst⟩ := exists_of_holds h
  obtain ⟨front, rest, -, rfl, hexpand⟩ := exists_of_first? hfirst
  have hrest := count_expand_le rest
  have hspelling : 0 < (spelling inner).count '}' := by simp [spelling]
  simp only [hexpand, List.count_append, List.count_eq_zero_of_not_mem
    (brace_not_mem_parameter inner)]
  omega

end Holds

end ServiceContracts.Interpolation
