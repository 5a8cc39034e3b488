import ServiceContracts.Dependency.Version
import ServiceContracts.Proofs.Text.Cut
import ServiceContracts.Proofs.Text.Trim

/-!
# How a declared version is reduced

A declared version is cut at its hyphens first, then at its bars, and loses the operators in front
of what is left.

* `hyphen`, `bars` : the marks at which it is cut;
* `upperEnd_of_not_isInfix`, `exists_lower_of_isInfix` : the text behind the last hyphen;
* `upperEndFrom_append_sep`, `upperEndFrom_append_blanks` : how the search for hyphens goes over
  another character, and into the blanks at the end of a text;
* `firstAlternative_of_not_isInfix`, `firstAlternative_append_bars` : the text before the first
  bars;
* `withoutOperators` : the text without blanks around it and operators in front.
-/

namespace ServiceContracts.Dependency
open Text

variable {c : Char} {cs front back whole blanks : List Char}

/-- The mark between the two ends of a range. -/
def hyphen : List Char := [' ', '-', ' ']

/-- The mark between alternatives. -/
def bars : List Char := ['|', '|']

/-! ## Hyphens -/

theorem upperEndFrom_hyphen (whole rest : List Char) :
    Version.upperEndFrom whole (hyphen ++ rest) = Version.upperEnd rest := by
  rw [hyphen, List.cons_append, List.cons_append, List.cons_append, List.nil_append,
    Version.upperEndFrom, Version.upperEnd]

theorem upperEndFrom_cons (h : ¬ hyphen <+: c :: cs) (whole : List Char) :
    Version.upperEndFrom whole (c :: cs) = Version.upperEndFrom whole cs := by
  rw [Version.upperEndFrom]
  rintro rest rfl rfl
  exact h ⟨rest, rfl⟩

theorem upperEndFrom_of_not_isInfix (h : ¬ hyphen <:+: cs) (whole : List Char) :
    Version.upperEndFrom whole cs = whole := by
  induction cs with
  | nil => rfl
  | cons c cs ih =>
    rw [upperEndFrom_cons fun hp => h hp.isInfix]
    exact ih fun hi => h (List.infix_cons hi)

theorem upperEnd_of_not_isInfix (h : ¬ hyphen <:+: cs) : Version.upperEnd cs = cs :=
  upperEndFrom_of_not_isInfix h cs

/-- Where there is a hyphen, it does not matter what was found before. -/
theorem upperEndFrom_of_isInfix (h : hyphen <:+: cs) (whole whole' : List Char) :
    Version.upperEndFrom whole cs = Version.upperEndFrom whole' cs := by
  induction cs with
  | nil => simp [hyphen] at h
  | cons c cs ih =>
    by_cases hp : hyphen <+: c :: cs
    · obtain ⟨rest, hrest⟩ := hp
      rw [← hrest, upperEndFrom_hyphen, upperEndFrom_hyphen]
    · rw [upperEndFrom_cons hp, upperEndFrom_cons hp]
      exact ih ((List.infix_cons_iff.mp h).resolve_left hp)

theorem not_hyphen_isPrefix (h : ∀ rest, c = ' ' → cs = '-' :: ' ' :: rest → False) :
    ¬ hyphen <+: c :: cs := by
  rintro ⟨rest, hrest⟩
  obtain ⟨rfl, rfl⟩ := List.cons.inj hrest
  exact h rest rfl rfl

/-- The upper end stands behind a hyphen and holds none. -/
theorem exists_lower_of_isInfix (h : hyphen <:+: cs) (whole : List Char) :
    ∃ lower, cs = lower ++ (hyphen ++ Version.upperEndFrom whole cs) ∧
      ¬ hyphen <:+: Version.upperEndFrom whole cs := by
  fun_induction Version.upperEndFrom whole cs with
  | case1 whole cs ih =>
    by_cases hmore : hyphen <:+: cs
    · obtain ⟨lower, hlower, hnone⟩ := ih hmore
      refine ⟨hyphen ++ lower, ?_, hnone⟩
      nth_rewrite 1 [hlower]
      simp [hyphen]
    · rw [upperEndFrom_of_not_isInfix hmore]
      exact ⟨[], rfl, hmore⟩
  | case2 whole c cs hne ih =>
    have hp := not_hyphen_isPrefix hne
    obtain ⟨lower, hlower, hnone⟩ := ih ((List.infix_cons_iff.mp h).resolve_left hp)
    refine ⟨c :: lower, ?_, hnone⟩
    rw [List.cons_append, ← hlower]
  | case3 whole => simp [hyphen] at h

/-- A hyphen does not go over another character, so the search goes on behind it. -/
theorem upperEndFrom_append_sep {sep : Char} (hsep : sep ∉ hyphen) (whole front back : List Char) :
    Version.upperEndFrom (whole ++ sep :: back) (front ++ sep :: back) =
      Version.upperEndFrom (Version.upperEndFrom whole front ++ sep :: back) back := by
  have hstart : ∀ cs, ¬ hyphen <+: cs → ¬ hyphen <+: cs ++ sep :: back :=
    fun cs h => mt (prefix_append_sep hsep).mp h
  fun_induction Version.upperEndFrom whole front with
  | case1 whole cs ih =>
    rw [← ih]
    exact upperEndFrom_hyphen _ _
  | case2 whole c cs hne ih =>
    rw [← ih]
    exact upperEndFrom_cons (hstart _ (not_hyphen_isPrefix hne)) _
  | case3 whole => exact upperEndFrom_cons (hstart [] (by simp [hyphen])) _

theorem not_hyphen_isInfix_blanks (h : ∀ c ∈ blanks, isBlank c = true) : ¬ hyphen <:+: blanks :=
  fun hi => absurd (h '-' (hi.mem (by simp [hyphen]))) (by decide)

/-- A hyphen that needs a blank behind the text. -/
theorem eq_of_hyphen_isPrefix (hblanks : ∀ c ∈ blanks, isBlank c = true)
    (hne : ¬ hyphen <+: c :: cs) (h : hyphen <+: c :: cs ++ blanks) :
    c :: cs = [' ', '-'] ∧ ∃ rest, blanks = ' ' :: rest := by
  obtain ⟨rest, hrest⟩ := h
  rcases cs with _ | ⟨d, _ | ⟨e, cs⟩⟩
  · simp only [hyphen, List.cons_append, List.nil_append, List.cons.injEq] at hrest
    exact absurd (hblanks '-' (by simp [← hrest.2])) (by decide)
  · simp only [hyphen, List.cons_append, List.nil_append, List.cons.injEq] at hrest
    obtain ⟨rfl, rfl, rfl⟩ := hrest
    exact ⟨rfl, rest, rfl⟩
  · simp only [hyphen, List.cons_append, List.nil_append, List.cons.injEq] at hrest
    obtain ⟨rfl, rfl, rfl, -⟩ := hrest
    exact absurd ⟨cs, rfl⟩ hne

/-- Blanks at the end belong to the upper end, unless the first of them is needed for a hyphen. Then
nothing but blanks is left, and without them the upper end holds the dash. -/
theorem upperEndFrom_append_blanks (hblanks : ∀ c ∈ blanks, isBlank c = true) (whole cs : List Char)
    (hcs : cs <:+ whole) :
    Version.upperEndFrom (whole ++ blanks) (cs ++ blanks) =
      Version.upperEndFrom whole cs ++ blanks ∨
    (∀ c ∈ Version.upperEndFrom (whole ++ blanks) (cs ++ blanks), isBlank c = true) ∧
      '-' ∈ Version.upperEndFrom whole cs := by
  fun_induction Version.upperEndFrom whole cs with
  | case1 whole cs ih =>
    have hsame : Version.upperEndFrom (whole ++ blanks) (' ' :: '-' :: ' ' :: cs ++ blanks) =
        Version.upperEndFrom (cs ++ blanks) (cs ++ blanks) := upperEndFrom_hyphen _ _
    rw [hsame]
    exact ih List.suffix_rfl
  | case2 whole c cs hne ih =>
    by_cases hp : hyphen <+: c :: cs ++ blanks
    · obtain ⟨hdash, rest, rfl⟩ := eq_of_hyphen_isPrefix hblanks (not_hyphen_isPrefix hne) hp
      obtain ⟨rfl, rfl⟩ := List.cons.inj hdash
      have hrest := (List.forall_mem_cons.mp hblanks).2
      right
      constructor
      · have hupper : Version.upperEndFrom (whole ++ ' ' :: rest) (hyphen ++ rest) = rest := by
          rw [upperEndFrom_hyphen, upperEnd_of_not_isInfix (not_hyphen_isInfix_blanks hrest)]
        intro c hc
        exact hrest c (hupper ▸ hc)
      · exact hcs.subset (by simp)
    · have hstep : Version.upperEndFrom (whole ++ blanks) (c :: cs ++ blanks) =
          Version.upperEndFrom (whole ++ blanks) (cs ++ blanks) := upperEndFrom_cons hp _
      rw [hstep]
      exact ih ((List.suffix_cons c cs).trans hcs)
  | case3 whole =>
    rw [List.nil_append, upperEndFrom_of_not_isInfix (not_hyphen_isInfix_blanks hblanks)]
    exact .inl rfl

theorem upperEndFrom_isSuffix (h : cs <:+ whole) : Version.upperEndFrom whole cs <:+ whole := by
  fun_induction Version.upperEndFrom whole cs with
  | case1 whole cs ih => exact (ih List.suffix_rfl).trans ((List.suffix_append hyphen cs).trans h)
  | case2 whole c cs _ ih => exact ih ((List.suffix_cons c cs).trans h)
  | case3 whole => exact List.suffix_rfl

theorem upperEnd_isSuffix (cs : List Char) : Version.upperEnd cs <:+ cs :=
  upperEndFrom_isSuffix List.suffix_rfl

/-- An upper end is missing only behind a hyphen at the end. -/
theorem upperEnd_ne_nil (hne : cs ≠ []) (hlast : ∀ c ∈ cs.getLast?, isBlank c = false) :
    Version.upperEnd cs ≠ [] := by
  intro hnil
  by_cases hi : hyphen <:+: cs
  · obtain ⟨lower, hlower, -⟩ := exists_lower_of_isInfix hi cs
    rw [← Version.upperEnd, hnil] at hlower
    exact absurd (hlast ' ' (by rw [hlower]; simp [hyphen])) (by decide)
  · exact hne ((upperEnd_of_not_isInfix hi).symm.trans hnil)

/-! ## Bars -/

theorem firstAlternative_bars (rest : List Char) :
    Version.firstAlternative (bars ++ rest) = [] := rfl

theorem firstAlternative_cons (h : ¬ bars <+: c :: cs) :
    Version.firstAlternative (c :: cs) = c :: Version.firstAlternative cs := by
  rw [Version.firstAlternative]
  rintro rest rfl rfl
  exact h ⟨rest, rfl⟩

theorem firstAlternative_of_not_isInfix (h : ¬ bars <:+: cs) : Version.firstAlternative cs = cs := by
  induction cs with
  | nil => rfl
  | cons c cs ih =>
    rw [firstAlternative_cons fun hp => h hp.isInfix, ih fun hi => h (List.infix_cons hi)]

/-- What stands in front of the first bars. -/
theorem firstAlternative_append_bars (h : ¬ bars <:+: front ++ ['|']) (back : List Char) :
    Version.firstAlternative (front ++ (bars ++ back)) = front := by
  induction front with
  | nil => rfl
  | cons c front ih =>
    have hstart : ¬ bars <+: c :: (front ++ (bars ++ back)) := by
      rintro ⟨rest, hrest⟩
      obtain ⟨rfl, htail⟩ := List.cons.inj hrest
      cases front with
      | nil => exact h List.infix_rfl
      | cons d front =>
        obtain ⟨rfl, -⟩ := List.cons.inj htail
        exact h ⟨[], front ++ ['|'], rfl⟩
    rw [List.cons_append, firstAlternative_cons hstart, ih fun hi => h (List.infix_cons hi)]

/-- Blanks in front may go before or after. -/
theorem firstAlternative_dropWhile (cs : List Char) :
    Version.firstAlternative (cs.dropWhile isBlank) =
      (Version.firstAlternative cs).dropWhile isBlank := by
  induction cs with
  | nil => rfl
  | cons c cs ih =>
    by_cases hp : bars <+: c :: cs
    · obtain ⟨rest, hrest⟩ := hp
      rw [← hrest, firstAlternative_bars]
      rfl
    · rw [firstAlternative_cons hp]
      cases hc : isBlank c with
      | true => rw [List.dropWhile_cons_of_pos hc, List.dropWhile_cons_of_pos hc, ih]
      | false =>
        have hkept : ¬ isBlank c = true := by simp [hc]
        rw [List.dropWhile_cons_of_neg hkept, List.dropWhile_cons_of_neg hkept,
          firstAlternative_cons hp]

/-! ## Operators -/

/-- The text without the blanks around it and the operators in front. -/
def withoutOperators (cs : List Char) : List Char :=
  trimChars ((trimChars cs).dropWhile Version.isOperator)

theorem cleanChars_eq (spec : List Char) : Version.cleanChars spec =
    withoutOperators (Version.firstAlternative (Version.upperEnd (trimChars spec))) := rfl

theorem withoutOperators_append_blanks (h : ∀ c ∈ blanks, isBlank c = true) (cs : List Char) :
    withoutOperators (cs ++ blanks) = withoutOperators cs := by
  rw [withoutOperators, trimChars_append_blanks h, withoutOperators]

theorem withoutOperators_trimChars (cs : List Char) :
    withoutOperators (trimChars cs) = withoutOperators cs := by
  rw [withoutOperators, trimChars_trimChars, withoutOperators]

theorem withoutOperators_dropWhile (cs : List Char) :
    withoutOperators (cs.dropWhile isBlank) = withoutOperators cs := by
  rw [withoutOperators, trimChars_dropWhile, withoutOperators]

theorem withoutOperators_of_blanks (h : ∀ c ∈ blanks, isBlank c = true) :
    withoutOperators blanks = [] := by
  rw [withoutOperators, trimChars_eq_nil_iff.mpr h]
  rfl

theorem mem_withoutOperators (h : c ∈ cs) (hblank : isBlank c = false)
    (hoperator : Version.isOperator c = false) : c ∈ withoutOperators cs :=
  mem_trimChars (mem_dropWhile (mem_trimChars h hblank) hoperator) hblank

end ServiceContracts.Dependency
