import ServiceContracts.Proofs.Dependency.Order

/-!
# Grades and pairs of versions

Only the lowest and the highest version are compared, but every difference of two versions shows in
these two: the major numbers lie between theirs, and if those are equal, then so do the minor
numbers.

* `Vary`, `DifferIn` : two of some versions differ in a component, or two of some texts do;
* `ne_iff_vary` : two versions that bound all others tell whether any two differ;
* `spread_eq` : the grade of some versions, by pairs of them;
* `severity_pairwise` : the same for texts. The grade depends on which texts there are, and it is
  never lowered by more of them.
-/

namespace ServiceContracts.Dependency

/-! ## Versions -/

/-- Two of the versions differ in a component. -/
def Vary (part : Version → Nat) (vs : List Version) : Prop :=
  ∃ v ∈ vs, ∃ w ∈ vs, part v ≠ part w

instance (part : Version → Nat) : DecidablePred (Vary part) := fun vs =>
  inferInstanceAs (Decidable (∃ v ∈ vs, ∃ w ∈ vs, part v ≠ part w))

section Vary
variable {part : Version → Nat} {vs ws : List Version} {low high : Version}

theorem Vary.mono (h : Vary part vs) (hsub : vs ⊆ ws) : Vary part ws := by
  obtain ⟨v, hv, w, hw, hne⟩ := h
  exact ⟨v, hsub hv, w, hsub hw, hne⟩

/-- Of versions with a lowest and a highest component two differ just if these do. -/
theorem ne_iff_vary (part : Version → Nat) (hlow : low ∈ vs) (hhigh : high ∈ vs)
    (hbounds : ∀ v ∈ vs, part low ≤ part v ∧ part v ≤ part high) :
    part low ≠ part high ↔ Vary part vs := by
  constructor
  · exact fun hne => ⟨low, hlow, high, hhigh, hne⟩
  · rintro ⟨v, hv, w, hw, hne⟩ heq
    have := hbounds v hv
    have := hbounds w hw
    omega

theorem Version.major_le {v w : Version} (h : v.triple ≤ w.triple) : v.major ≤ w.major := by
  rw [triple, triple, Prod.Lex.toLex_le_toLex] at h
  omega

theorem Version.minor_le {v w : Version} (h : v.triple ≤ w.triple) (hmajor : v.major = w.major) :
    v.minor ≤ w.minor := by
  rw [triple, triple, Prod.Lex.toLex_le_toLex, Prod.Lex.toLex_le_toLex] at h
  omega

/-- The grade of some versions is the worst one of two of them. -/
theorem spread_eq (vs : List Version) : spread vs =
    if Vary Version.major vs then .critical
    else if Vary Version.minor vs then .warning
    else .info := by
  cases vs with
  | nil => rfl
  | cons v vs =>
    obtain ⟨hlow, hleast⟩ := foldl_lower_spec v vs
    obtain ⟨hhigh, hgreatest⟩ := foldl_higher_spec v vs
    have hmajor := ne_iff_vary Version.major hlow hhigh fun w hw =>
      ⟨Version.major_le (hleast w hw), Version.major_le (hgreatest w hw)⟩
    simp only [spread, hmajor]
    split
    · rfl
    · next hsame =>
      have hone : ∀ w ∈ v :: vs, ∀ w' ∈ v :: vs, w.major = w'.major := fun w hw w' hw' => by
        by_contra hne
        exact hsame ⟨w, hw, w', hw', hne⟩
      have hminor := ne_iff_vary Version.minor hlow hhigh fun w hw =>
        ⟨Version.minor_le (hleast w hw) (hone _ hlow _ hw),
          Version.minor_le (hgreatest w hw) (hone _ hw _ hhigh)⟩
      simp only [hminor]

theorem rank_spread_le (h : vs ⊆ ws) : (spread ws).rank ≤ (spread vs).rank := by
  have hmajor : Vary Version.major vs → Vary Version.major ws := fun hv => hv.mono h
  have hminor : Vary Version.minor vs → Vary Version.minor ws := fun hv => hv.mono h
  rw [spread_eq, spread_eq]
  grind [Severity.rank]

end Vary

/-! ## Texts -/

/-- Two of the texts spell versions that differ in a component. -/
def DifferIn (part : Version → Nat) (texts : List String) : Prop :=
  ∃ s ∈ texts, ∃ t ∈ texts, ∃ v w, Version.read s = .ok (some v) ∧
    Version.read t = .ok (some w) ∧ part v ≠ part w

section Texts
variable {part : Version → Nat} {texts texts' : List String} {text : String} {v : Version}

theorem version?_eq_some_iff : version? text = some v ↔ Version.read text = .ok (some v) := by
  rw [version?]
  cases Version.read text with
  | error stop => simp [Except.toOption]
  | ok found => cases found <;> simp [Except.toOption]

theorem vary_versions_iff : Vary part (texts.filterMap version?) ↔ DifferIn part texts := by
  simp only [Vary, DifferIn, List.mem_filterMap, version?_eq_some_iff]
  constructor
  · rintro ⟨v, ⟨s, hs, hv⟩, w, ⟨t, ht, hw⟩, hne⟩
    exact ⟨s, hs, t, ht, v, w, hv, hw, hne⟩
  · rintro ⟨s, hs, t, ht, v, w, hv, hw, hne⟩
    exact ⟨v, ⟨s, hs, hv⟩, w, ⟨t, ht, hw⟩, hne⟩

/-- The three grades, each with what it says of pairs of texts. -/
theorem classify_cases (texts : List String) :
    (classify texts = .critical ∧ DifferIn Version.major texts) ∨
    (classify texts = .warning ∧ ¬ DifferIn Version.major texts ∧ DifferIn Version.minor texts) ∨
    (classify texts = .info ∧ ¬ DifferIn Version.major texts ∧ ¬ DifferIn Version.minor texts) := by
  simp only [classify, spread_eq, ← vary_versions_iff]
  split
  · next hmajor => exact .inl ⟨rfl, hmajor⟩
  · next hmajor =>
    split
    · next hminor => exact .inr (.inl ⟨rfl, hmajor, hminor⟩)
    · next hminor => exact .inr (.inr ⟨rfl, hmajor, hminor⟩)

theorem rank_classify_le (h : texts ⊆ texts') :
    (classify texts').rank ≤ (classify texts).rank :=
  rank_spread_le (List.filterMap_subset version? h)

theorem classify_congr (h : ∀ text, text ∈ texts' ↔ text ∈ texts) :
    classify texts' = classify texts := by
  apply spread_congr
  intro v
  simp only [List.mem_filterMap, h]

end Texts

/-- The grade of some version texts is the highest one if two of them spell versions with different
major numbers, else the middle one if two spell versions with different minor numbers, else the
lowest one. So neither order nor repetition matters, and more texts never lower the grade. -/
theorem severity_pairwise (texts : List String) (hread : ∀ text ∈ texts, IsReadable text) :
    ∃ grade, severity texts = .ok grade ∧
      (grade = .critical ↔ DifferIn Version.major texts) ∧
      (grade = .warning ↔ ¬ DifferIn Version.major texts ∧ DifferIn Version.minor texts) ∧
      (grade = .info ↔ ¬ DifferIn Version.major texts ∧ ¬ DifferIn Version.minor texts) ∧
      (∀ texts', (∀ text, text ∈ texts' ↔ text ∈ texts) → severity texts' = .ok grade) ∧
      ∀ texts', texts ⊆ texts' → (∀ text ∈ texts', IsReadable text) →
        ∃ grade', severity texts' = .ok grade' ∧ grade'.rank ≤ grade.rank := by
  have hcases := classify_cases texts
  refine ⟨classify texts, severity_eq_ok hread, ?_, ?_, ?_, ?_, ?_⟩
  · rcases hcases with h | h | h <;> simp [h]
  · rcases hcases with h | h | h <;> simp [h]
  · rcases hcases with h | h | h <;> simp [h]
  · intro texts' hsame
    rw [severity_eq_ok fun text htext => hread text ((hsame text).mp htext), classify_congr hsame]
  · intro texts' hsub hread'
    exact ⟨classify texts', severity_eq_ok hread', rank_classify_le hsub⟩

/-- Two minor numbers among four texts, one of which spells no version. The grade stays if the texts
are turned around and repeated, and it does not fall if another major number is added. -/
theorem severity_pairwise_minor :
    let texts := ["1.9.3", "latest", "1.10", "1.9.3"]
    severity texts = .ok .warning ∧ DifferIn Version.minor texts ∧
      severity (texts.reverse ++ texts) = .ok .warning ∧
      ∃ grade, severity ("2.0-rc" :: texts) = .ok grade ∧ grade.rank ≤ Severity.warning.rank := by
  intro texts
  have hread : ∀ text ∈ "2.0-rc" :: texts, IsReadable text := by decide +kernel
  obtain ⟨grade, hgrade, -, hwarning, -, hsame, hmore⟩ :=
    severity_pairwise texts (List.forall_mem_cons.mp hread).2
  have hfound : (severity texts).toOption = some .warning := by decide +kernel
  rw [hgrade] at hfound
  obtain rfl : grade = .warning := Option.some.inj hfound
  exact ⟨hgrade, (hwarning.mp rfl).2, hsame _ (by simp), hmore _ (List.subset_cons_self _ _) hread⟩

end ServiceContracts.Dependency
