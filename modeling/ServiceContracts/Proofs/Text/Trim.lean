import Mathlib.Data.List.DropRight
import ServiceContracts.Text.Blank

/-!
# What trimming removes

* `blankCodes`, `isBlank_of_class` : the blank characters, one by one, and classes without them;
* `trimChars_eq_nil_iff`, `trim_eq_empty_iff` : nothing is left of the blank texts, and only of
  them;
* `dropWhile_of_head?`, `dropEndWhile_append`, `exists_dropped` : what starts or ends in a character
  that stays is kept whole there, and what is dropped holds no such character;
* `trimChars_append`, `trimChars_append_cons` : behind such a text only the end is trimmed;
* `getLast?_dropEndWhile`, `trimChars_of_head?`, `trimChars_of_getLast?` : what is trimmed at one
  end;
* `trimChars_trimChars`, `trimChars_append_blanks` : trimming once is enough, and blanks at the end
  may go before;
* `mem_trimChars`, `trimChars_isInfix` : what is no blank stays, and nothing is taken out of the
  middle.
-/

namespace ServiceContracts.Text
variable {p : Char → Bool} {cs front : List Char}

/-- The codes of the blank characters. -/
def blankCodes : List Nat :=
  List.range' 9 5 ++ List.range' 28 5 ++ List.range' 0x2000 11 ++
    [0x85, 0xA0, 0x1680, 0x2028, 0x2029, 0x202F, 0x205F, 0x3000]

theorem mem_blankCodes {c : Char} (h : isBlank c = true) : c.toNat ∈ blankCodes := by
  simp only [isBlank, Bool.or_eq_true, Bool.and_eq_true, decide_eq_true_eq, beq_iff_eq] at h
  simp only [blankCodes, List.mem_append, List.mem_range'_1, List.mem_cons, List.not_mem_nil]
  omega

/-- A class of characters is free of blanks if it holds none of their codes. -/
theorem isBlank_of_class (hp : ∀ n ∈ blankCodes, p (Char.ofNat n) = false) {c : Char}
    (h : p c = true) : isBlank c = false := by
  by_contra hblank
  have := hp c.toNat (mem_blankCodes (by simpa using hblank))
  rw [Char.ofNat_toNat, h] at this
  cases this

theorem dropWhile_of_head? (h : ∀ c ∈ cs.head?, p c = false) : cs.dropWhile p = cs := by
  cases cs with
  | nil => rfl
  | cons c cs => exact List.dropWhile_cons_of_neg (by simp [h c rfl])

theorem dropEndWhile_eq_rdropWhile (p : Char → Bool) (cs : List Char) :
    dropEndWhile p cs = cs.rdropWhile p := rfl

@[simp]
theorem dropEndWhile_nil (p : Char → Bool) : dropEndWhile p [] = [] := rfl

theorem trimChars_eq_nil_iff : trimChars cs = [] ↔ ∀ c ∈ cs, isBlank c = true := by
  rw [trimChars, dropEndsWhile, dropEndWhile_eq_rdropWhile, List.rdropWhile_eq_nil_iff]
  constructor
  · intro h c hc
    rw [← List.takeWhile_append_dropWhile (p := isBlank) (l := cs), List.mem_append] at hc
    exact hc.elim List.mem_takeWhile_imp (h c)
  · intro h c hc
    exact h c ((List.dropWhile_sublist isBlank).subset hc)

theorem trim_eq_empty_iff {s : String} : trim s = "" ↔ isBlankText s = true := by
  rw [trim, isBlankText, List.all_eq_true, ← trimChars_eq_nil_iff, String.ofList_eq_empty_iff]

/-- A text whose last character stays is kept whole. -/
theorem dropEndWhile_append (h : ∀ c ∈ front.getLast?, p c = false) (back : List Char) :
    dropEndWhile p (front ++ back) = front ++ dropEndWhile p back := by
  have hfront : front.reverse.dropWhile p = front.reverse :=
    dropWhile_of_head? fun c hc => h c (by rwa [List.getLast?_eq_head?_reverse])
  rw [dropEndWhile, dropEndWhile, List.reverse_append, List.dropWhile_append]
  split
  · next hnil => simp [hfront, List.isEmpty_iff.mp hnil]
  · rw [List.reverse_append, List.reverse_reverse]

theorem getLast?_dropEndWhile (p : Char → Bool) (cs : List Char) :
    ∀ c ∈ (dropEndWhile p cs).getLast?, p c = false := by
  intro c hc
  rw [dropEndWhile, List.getLast?_reverse] at hc
  obtain ⟨rest, hrest⟩ := List.head?_eq_some_iff.mp hc
  have hfirst := List.head?_dropWhile_not p cs.reverse
  rwa [hrest] at hfirst

theorem mem_getLast?_of_isSuffix {c : Char} {back : List Char} (h : back <:+ cs)
    (hc : c ∈ back.getLast?) : c ∈ cs.getLast? := by
  obtain ⟨front, rfl⟩ := h
  exact List.mem_getLast?_append_of_mem_getLast? hc

/-- What is dropped at the end, and what is kept. -/
theorem exists_dropped (p : Char → Bool) (cs : List Char) :
    ∃ dropped, cs = dropEndWhile p cs ++ dropped ∧ ∀ c ∈ dropped, p c = true := by
  refine ⟨(cs.reverse.takeWhile p).reverse, ?_, fun c hc => ?_⟩
  · rw [dropEndWhile, ← List.reverse_append, List.takeWhile_append_dropWhile, List.reverse_reverse]
  · exact List.mem_takeWhile_imp (List.mem_reverse.mp hc)

/-- Behind a text that starts and ends with other characters, only the blanks at the end go. -/
theorem trimChars_append (hfirst : ∃ c ∈ front.head?, isBlank c = false)
    (hlast : ∀ c ∈ front.getLast?, isBlank c = false) (back : List Char) :
    trimChars (front ++ back) = front ++ dropEndWhile isBlank back := by
  obtain ⟨c, hc, hblank⟩ := hfirst
  obtain ⟨rest, rfl⟩ := List.head?_eq_some_iff.mp hc
  rw [trimChars, dropEndsWhile, List.cons_append, List.dropWhile_cons_of_neg (by simp [hblank]),
    ← List.cons_append, dropEndWhile_append hlast]

theorem trimChars_cons {c : Char} (h : isBlank c = false) (cs : List Char) :
    trimChars (c :: cs) = c :: dropEndWhile isBlank cs := by
  have hlast : ∀ d ∈ [c].getLast?, isBlank d = false := by
    rintro _ ⟨⟩
    exact h
  exact trimChars_append ⟨c, rfl, h⟩ hlast cs

/-- A text without blanks stays as it is. -/
theorem trimChars_eq_self (h : ∀ c ∈ cs, isBlank c = false) : trimChars cs = cs := by
  cases cs with
  | nil => rfl
  | cons c cs =>
    have hlast : ∀ d ∈ (c :: cs).getLast?, isBlank d = false := fun d hd =>
      h d (List.mem_of_mem_getLast? hd)
    have := trimChars_append ⟨c, rfl, h c List.mem_cons_self⟩ hlast []
    simpa [dropEndWhile] using this

theorem trimChars_cons_blank {c : Char} (h : isBlank c = true) (cs : List Char) :
    trimChars (c :: cs) = trimChars cs := by
  rw [trimChars, trimChars, dropEndsWhile, dropEndsWhile, List.dropWhile_cons_of_pos h]

theorem trimChars_append_cons {d : Char} (hfirst : ∃ c ∈ front.head?, isBlank c = false)
    (hd : isBlank d = false) (back : List Char) :
    trimChars (front ++ d :: back) = front ++ d :: dropEndWhile isBlank back := by
  obtain ⟨c, hc, hblank⟩ := hfirst
  have hlast : ∀ e ∈ (front ++ [d]).getLast?, isBlank e = false := by
    rw [List.getLast?_concat]
    rintro _ ⟨⟩
    exact hd
  have htrim := trimChars_append ⟨c, List.mem_head?_append_of_mem_head? hc, hblank⟩ hlast back
  rwa [List.append_assoc, List.append_assoc] at htrim

/-- A text that does not start with a blank is trimmed at its end. -/
theorem trimChars_of_head? (h : ∀ c ∈ cs.head?, isBlank c = false) :
    trimChars cs = dropEndWhile isBlank cs := by
  rw [trimChars, dropEndsWhile, dropWhile_of_head? h]

/-- A text that does not end in a blank is trimmed at its start. -/
theorem trimChars_of_getLast? (h : ∀ c ∈ cs.getLast?, isBlank c = false) :
    trimChars cs = cs.dropWhile isBlank := by
  have hlast : ∀ c ∈ (cs.dropWhile isBlank).getLast?, isBlank c = false := fun c hc =>
    h c (mem_getLast?_of_isSuffix (List.dropWhile_suffix isBlank) hc)
  have hkept := dropEndWhile_append hlast []
  rwa [List.append_nil, dropEndWhile_nil, List.append_nil] at hkept

theorem trimChars_dropWhile (cs : List Char) : trimChars (cs.dropWhile isBlank) = trimChars cs := by
  rw [trimChars, trimChars, dropEndsWhile, dropEndsWhile, List.dropWhile_idempotent]

theorem head?_trimChars (cs : List Char) : ∀ c ∈ (trimChars cs).head?, isBlank c = false := by
  intro c hc
  obtain ⟨rest, hrest⟩ := List.rdropWhile_prefix isBlank (cs.dropWhile isBlank)
  obtain ⟨kept, hkept⟩ := List.head?_eq_some_iff.mp hc
  have hdropped : cs.dropWhile isBlank = c :: (kept ++ rest) := by
    rw [← hrest, ← dropEndWhile_eq_rdropWhile, ← List.cons_append, ← hkept]
    rfl
  have hfirst := List.head?_dropWhile_not isBlank cs
  rwa [hdropped] at hfirst

theorem trimChars_trimChars (cs : List Char) : trimChars (trimChars cs) = trimChars cs := by
  rw [trimChars_of_head? (head?_trimChars cs)]
  exact List.rdropWhile_idempotent isBlank (cs.dropWhile isBlank)

/-- Blanks at the end are trimmed first. -/
theorem trimChars_append_blanks {blanks : List Char} (h : ∀ c ∈ blanks, isBlank c = true)
    (cs : List Char) : trimChars (cs ++ blanks) = trimChars cs := by
  rw [trimChars, trimChars, dropEndsWhile, dropEndsWhile, List.dropWhile_append]
  split
  · next hnil =>
    rw [List.isEmpty_iff.mp hnil, List.dropWhile_eq_nil_iff.mpr h]
  · rw [dropEndWhile, dropEndWhile, List.reverse_append,
      List.dropWhile_append_of_pos fun c hc => h c (List.mem_reverse.mp hc)]

/-- A character that is not dropped stays. -/
theorem mem_dropWhile {c : Char} (h : c ∈ cs) (hc : p c = false) : c ∈ cs.dropWhile p := by
  rw [← List.takeWhile_append_dropWhile (p := p) (l := cs), List.mem_append] at h
  refine h.resolve_left fun htaken => ?_
  have := List.mem_takeWhile_imp htaken
  rw [hc] at this
  cases this

theorem mem_trimChars {c : Char} (h : c ∈ cs) (hc : isBlank c = false) : c ∈ trimChars cs := by
  rw [trimChars, dropEndsWhile, dropEndWhile, List.mem_reverse]
  exact mem_dropWhile (List.mem_reverse.mpr (mem_dropWhile h hc)) hc

theorem trimChars_isInfix (cs : List Char) : trimChars cs <:+: cs :=
  (List.rdropWhile_prefix isBlank _).isInfix.trans (List.dropWhile_suffix isBlank).isInfix

theorem dropEndsWhile_sublist (p : Char → Bool) (cs : List Char) :
    (dropEndsWhile p cs).Sublist cs :=
  (List.rdropWhile_prefix p _).sublist.trans (List.dropWhile_sublist p)

theorem trimChars_sublist (cs : List Char) : (trimChars cs).Sublist cs :=
  dropEndsWhile_sublist isBlank cs

end ServiceContracts.Text
