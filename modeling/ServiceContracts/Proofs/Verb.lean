import ServiceContracts.Verb

/-!
# Method names and their order

* `read?_eq_some_iff`, `registered?_eq_some_iff` : which texts name a method, for a call and for an
  endpoint;
* `Before` : the order of a report, strictly; `before_of_precedes`;
* `precedes_trans`, `precedes_total`, `precedes_antisymm` : the order in which names are sorted.
-/

namespace ServiceContracts.Verb

/-! ## Reading -/

theorem canonical_of_read? {text : String} {v : Verb} (h : read? text = some v) :
    canonical text = v.name := by
  have := List.find?_some h
  exact (beq_iff_eq.mp this).symm

theorem read?_eq_some_iff {text : String} {v : Verb} :
    read? text = some v ↔ canonical text = v.name := by
  refine ⟨canonical_of_read?, fun h => ?_⟩
  rw [read?, h]
  cases v <;> rfl

theorem read?_congr {text text' : String} (h : canonical text = canonical text') :
    read? text = read? text' := by
  rw [read?, read?, h]

theorem name_ne_unknown (v : Verb) : v.name ≠ "UNKNOWN" := by
  cases v <;> decide

theorem registered?_eq_some_iff {text method : String} :
    registered? text = some method ↔
      canonical text = method ∧ (method = any ∨ ∃ v : Verb, method = v.name) := by
  unfold registered?
  cases hread : read? text with
  | some v =>
    have hname := canonical_of_read? hread
    simp only [Option.some_inj]
    constructor
    · rintro rfl
      exact ⟨hname, .inr ⟨v, rfl⟩⟩
    · rintro ⟨rfl, -⟩
      exact hname.symm
  | none =>
    have hno : ∀ v : Verb, canonical text ≠ v.name := by
      intro v hv
      rw [read?_eq_some_iff.mpr hv] at hread
      cases hread
    simp only
    split
    · next hany =>
      rw [Option.some_inj, hany]
      constructor
      · rintro rfl
        exact ⟨rfl, .inl rfl⟩
      · rintro ⟨rfl, -⟩
        rfl
    · next hany =>
      refine iff_of_false (Option.some_ne_none _).symm ?_
      rintro ⟨rfl, h | ⟨v, hv⟩⟩
      · exact hany h
      · exact hno v hv

/-! ## The order of a report -/

/-- Methods come in their usual order, names that are none of them behind, by their code points. -/
def Before (a b : String) : Prop :=
  rank a < rank b ∨
    (rank a = all.length ∧ rank b = all.length ∧ a ≠ b ∧ ¬ Text.IsBefore b a)

section Order
variable {a b c : String}

theorem precedes_iff : precedes a b = true ↔
    rank a < rank b ∨ (rank a = rank b ∧ Text.precedes a b = true) := by
  simp [precedes]

theorem precedes_trans (hab : precedes a b = true) (hbc : precedes b c = true) :
    precedes a c = true := by
  rw [precedes_iff] at *
  rcases hab with hab | ⟨hab, hle⟩
  · left
    omega
  · rcases hbc with hbc | ⟨hbc, hle'⟩
    · left
      omega
    · exact .inr ⟨hab.trans hbc, Text.precedes_trans hle hle'⟩

theorem precedes_total (a b : String) : (precedes a b || precedes b a) = true := by
  rw [Bool.or_eq_true, precedes_iff, precedes_iff]
  rcases Nat.lt_trichotomy (rank a) (rank b) with h | h | h
  · exact .inl (.inl h)
  · exact (Text.precedes_total a b).imp (fun hle => .inr ⟨h, hle⟩) fun hle => .inr ⟨h.symm, hle⟩
  · exact .inr (.inl h)

theorem precedes_antisymm (hab : precedes a b = true) (hba : precedes b a = true) : a = b := by
  rcases precedes_iff.mp hab with hlt | ⟨heq, hle⟩ <;>
    rcases precedes_iff.mp hba with hlt' | ⟨heq', hle'⟩
  · omega
  · omega
  · omega
  · exact Text.precedes_antisymm hle hle'

/-- Two names with the rank of a method are the same. -/
theorem eq_of_rank_eq (h : rank a = rank b) (hlt : rank a < all.length) : a = b := by
  have name_rank : ∀ {text : String} (hlt : rank text < all.length),
      (all[rank text]).name = text := fun hlt =>
    beq_iff_eq.mp (List.findIdx_getElem (w := hlt))
  have hb : (all[rank a]).name = b := by
    simp only [h]
    exact name_rank (h ▸ hlt)
  exact (name_rank hlt).symm.trans hb

theorem before_of_precedes (h : precedes a b = true) (hne : a ≠ b) : Before a b := by
  rcases precedes_iff.mp h with hlt | ⟨heq, hle⟩
  · exact .inl hlt
  · have hlast : rank a = all.length := by
      apply Nat.le_antisymm List.findIdx_le_length
      exact Nat.le_of_not_lt fun hlt => hne (eq_of_rank_eq heq hlt)
    exact .inr ⟨hlast, heq ▸ hlast, hne, Text.not_isBefore_of_precedes hle⟩

end Order

end ServiceContracts.Verb
