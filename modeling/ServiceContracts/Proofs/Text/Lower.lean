import ServiceContracts.Text.Case
import ServiceContracts.Text.CodePoint

/-!
# What lower case does to a text

* `mem_lowerChar_cases`, `mem_of_mem_lowerChars` : lower case brings in small letters and characters
  beyond ASCII, so every mark in the result was there before;
* `lowerAfter_append` : so it is for a text in front of another one;
* `lowerChars_of_ascii` : an ASCII text is mapped character by character;
* `lowerChars_lowerChars` : and once is enough.
-/

namespace ServiceContracts.Text

/-! ## ASCII characters -/

/-- A property of all ASCII characters, checked one by one. -/
theorem ascii_forall {P : Char → Prop} (hall : ∀ n < 128, P (Char.ofNat n)) {c : Char}
    (h : c.toNat < 128) : P c := by
  have := hall c.toNat h
  rwa [Char.ofNat_toNat] at this

theorem toNat_lt_of_isLetter {c : Char} (h : isLetter c = true) : c.toNat < 128 := by
  simp only [isLetter, Bool.or_eq_true, Bool.and_eq_true, decide_eq_true_eq] at h
  rcases h with ⟨-, hle⟩ | ⟨-, hle⟩
  · exact Nat.lt_of_le_of_lt hle (by decide)
  · exact Nat.lt_of_le_of_lt hle (by decide)

theorem toNat_lt_of_isDigit {c : Char} (h : isDigit c = true) : c.toNat < 128 := by
  simp only [isDigit, Bool.and_eq_true, decide_eq_true_eq] at h
  exact Nat.lt_of_le_of_lt h.2 (by decide)

/-! ## No new marks -/

/-- The code of a small ASCII letter, or of a character beyond ASCII. -/
def isLowerCode (n : Nat) : Bool := (97 ≤ n && n ≤ 122) || 128 ≤ n

theorem isLowerCode_iff {n : Nat} : isLowerCode n = true ↔ 97 ≤ n ∧ n ≤ 122 ∨ 128 ≤ n := by
  simp [isLowerCode]

theorem toLower_cases {c : Char} (h : c.toNat < 128) :
    c.toLower = c ∨ isLowerCode c.toLower.toNat = true := by
  apply ascii_forall (P := fun c => c.toLower = c ∨ isLowerCode c.toLower.toNat = true) _ h
  decide +kernel

theorem isLowerCode_of_mem_lowerSpecials :
    ∀ p ∈ lowerSpecials, ∀ n ∈ p.2, isLowerCode n = true := by
  decide +kernel

theorem mem_lowerRuns_cases : ∀ r ∈ lowerRuns, 97 ≤ (r.first : Int) + r.shift ∧
    ((r.last : Int) + r.shift ≤ 122 ∨ 128 ≤ (r.first : Int) + r.shift) := by
  decide +kernel

/-- Where a run of the table leads to. -/
theorem isLowerCode_of_lowerRuns {n m : Nat}
    (h : lowerRuns.findSome? (fun r => r.map? n) = some m) : isLowerCode m = true := by
  obtain ⟨r, hr, hmap⟩ := List.exists_of_findSome?_eq_some h
  have hrange := mem_lowerRuns_cases r hr
  rw [Run.map?] at hmap
  split at hmap
  · next hin =>
    simp only [Bool.and_eq_true, decide_eq_true_eq] at hin
    cases hmap
    rw [isLowerCode_iff]
    omega
  · cases hmap

/-- The null character stands for the codes that are no characters. -/
theorem toNat_ofNat_cases (n : Nat) : (Char.ofNat n).toNat = 0 ∨ (Char.ofNat n).toNat = n := by
  by_cases h : n.isValidChar
  · exact .inr (toNat_ofNat h)
  · left
    rw [Char.ofNat, dif_neg h]
    rfl

theorem isLowerCode_toNat_ofNat {n : Nat} (h : isLowerCode n = true) :
    (Char.ofNat n).toNat = 0 ∨ isLowerCode (Char.ofNat n).toNat = true := by
  refine (toNat_ofNat_cases n).imp_right fun heq => ?_
  rw [heq]
  exact h

theorem mem_lowerChar_cases {c d : Char} (h : d ∈ lowerChar c) :
    d = c ∨ d.toNat = 0 ∨ isLowerCode d.toNat = true := by
  rw [lowerChar] at h
  split at h
  · next hascii =>
    rw [List.mem_singleton] at h
    subst h
    rcases toLower_cases hascii with heq | hlower
    · exact .inl heq
    · exact .inr (.inr hlower)
  · rw [mapped] at h
    split at h
    · next image hlookup =>
      obtain ⟨n, hn, rfl⟩ := List.mem_map.mp h
      obtain ⟨front, back, hspecials, -⟩ := List.lookup_eq_some_iff.mp hlookup
      exact .inr (isLowerCode_toNat_ofNat
        (isLowerCode_of_mem_lowerSpecials (c.toNat, image) (by simp [hspecials]) n hn))
    · split at h
      · next m hm =>
        rw [List.mem_singleton] at h
        subst h
        exact .inr (isLowerCode_toNat_ofNat (isLowerCode_of_lowerRuns hm))
      · exact .inl (List.mem_singleton.mp h)

theorem lowerAfter_cons (seen : List Char) (c : Char) (cs : List Char) : ∃ image,
    lowerAfter seen (c :: cs) = image ++ lowerAfter (c :: seen) cs ∧
      ∀ d ∈ image, d = c ∨ d.toNat = 0 ∨ isLowerCode d.toNat = true := by
  refine ⟨_, rfl, fun d hd => ?_⟩
  split at hd
  · right; right
    rw [List.mem_singleton] at hd
    subst hd
    split <;> decide
  · exact mem_lowerChar_cases hd

/-- A text in front brings no new marks in, whatever follows it. -/
theorem lowerAfter_append (seen front back : List Char) : ∃ image,
    lowerAfter seen (front ++ back) = image ++ lowerAfter (front.reverse ++ seen) back ∧
      ∀ d ∈ image, d ∈ front ∨ d.toNat = 0 ∨ isLowerCode d.toNat = true := by
  induction front generalizing seen with
  | nil => exact ⟨[], rfl, fun d hd => by cases hd⟩
  | cons c front ih =>
    obtain ⟨head, hhead, hmem⟩ := lowerAfter_cons seen c (front ++ back)
    obtain ⟨image, himage, hmem'⟩ := ih (c :: seen)
    refine ⟨head ++ image, ?_, fun d hd => ?_⟩
    · rw [List.cons_append, hhead, himage, List.append_assoc, List.reverse_cons, List.append_assoc,
        List.singleton_append]
    · rcases List.mem_append.mp hd with hd | hd
      · exact (hmem d hd).imp_left fun heq : d = c => heq ▸ List.mem_cons_self
      · exact (hmem' d hd).imp_left (List.mem_cons_of_mem c)

theorem mem_lowerAfter_cases {seen cs : List Char} {d : Char} (h : d ∈ lowerAfter seen cs) :
    d ∈ cs ∨ d.toNat = 0 ∨ isLowerCode d.toNat = true := by
  obtain ⟨image, heq, himage⟩ := lowerAfter_append seen cs []
  rw [List.append_nil, lowerAfter, List.append_nil] at heq
  exact himage d (heq ▸ h)

/-- An ASCII character of the result is one of the text, unless it is a small letter. -/
theorem mem_of_mem_lowerAfter {seen cs : List Char} {d : Char} (hpos : 0 < d.toNat)
    (hcode : isLowerCode d.toNat = false) (h : d ∈ lowerAfter seen cs) : d ∈ cs := by
  rcases mem_lowerAfter_cases h with h | h | h
  · exact h
  · omega
  · rw [hcode] at h
    cases h

theorem mem_of_mem_lowerChars {cs : List Char} {d : Char} (hpos : 0 < d.toNat)
    (hcode : isLowerCode d.toNat = false) (h : d ∈ lowerChars cs) : d ∈ cs :=
  mem_of_mem_lowerAfter hpos hcode h

/-! ## ASCII texts -/

theorem lowerAfter_append_of_ascii {seen front : List Char} (h : ∀ c ∈ front, c.toNat < 128)
    (back : List Char) : lowerAfter seen (front ++ back) =
      front.map Char.toLower ++ lowerAfter (front.reverse ++ seen) back := by
  induction front generalizing seen with
  | nil => rfl
  | cons c front ih =>
    obtain ⟨hc, hfront⟩ := List.forall_mem_cons.mp h
    have hsigma : c ≠ 'Σ' := by
      rintro rfl
      exact absurd hc (by decide)
    rw [List.cons_append, lowerAfter, if_neg hsigma, lowerChar, if_pos hc, ih hfront,
      List.reverse_cons, List.append_assoc, List.singleton_append]
    rfl

theorem lowerChars_of_ascii {cs : List Char} (h : ∀ c ∈ cs, c.toNat < 128) :
    lowerChars cs = cs.map Char.toLower := by
  have := @lowerAfter_append_of_ascii [] cs h []
  rwa [List.append_nil, lowerAfter, List.append_nil] at this

theorem toLower_toLower {c : Char} (h : c.toNat < 128) :
    c.toLower.toNat < 128 ∧ c.toLower.toLower = c.toLower := by
  apply ascii_forall (P := fun c => c.toLower.toNat < 128 ∧ c.toLower.toLower = c.toLower) _ h
  decide +kernel

theorem lowerChars_lowerChars {cs : List Char} (h : ∀ c ∈ cs, c.toNat < 128) :
    lowerChars (lowerChars cs) = lowerChars cs := by
  have hlower : ∀ c ∈ cs.map Char.toLower, c.toNat < 128 := by
    intro c hc
    obtain ⟨d, hd, rfl⟩ := List.mem_map.mp hc
    exact (toLower_toLower (h d hd)).1
  rw [lowerChars_of_ascii h, lowerChars_of_ascii hlower, List.map_map]
  exact List.map_congr_left fun c hc => (toLower_toLower (h c hc)).2

end ServiceContracts.Text
