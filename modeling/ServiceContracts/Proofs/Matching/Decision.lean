import ServiceContracts.Matching
import ServiceContracts.Proofs.Boundary
import ServiceContracts.Proofs.Verb

/-!
# What becomes of a call, and by what

* `IsUnplaced`, `IsPlaced` : what is known of a call without the table: nothing, or a method and a
  path inside the boundary;
* `Decides`, `decides_decision` : the outcomes of a call, each with its reason;
* `Issue.call?`, `callKey_of_raised` : an issue names the call that it is about;
* `Issue.unlocated`, `unlocated_decision_congr` : equal calls are decided alike, and their issues
  differ in the location only.
-/

namespace ServiceContracts

/-- The call that an issue is about, as far as it makes a call distinct. -/
def Issue.call? : Issue → Option (String × String × String)
  | missing m => some (m.method, m.rawUrl, m.callerRepo)
  | mismatch m => some (m.calledMethod, m.rawUrl, m.callerRepo)
  | suggestion s => some (s.method, s.rawUrl, s.callerRepo)
  | orphaned _ => none

/-- The repository whose call the issue is about. -/
def Issue.caller? (issue : Issue) : Option String := issue.call?.map fun key => key.2.2

/-- The issue without the place in the code. -/
def Issue.unlocated : Issue → Issue
  | missing m => missing { m with location := "" }
  | mismatch m => mismatch { m with location := "" }
  | suggestion s => suggestion { s with location := "" }
  | orphaned o => orphaned { o with location := "" }

end ServiceContracts

namespace ServiceContracts.Matching
open Mount

/-! ## Outcomes and their reasons -/

/-- The call names no method, or its target cannot be told. -/
def IsUnplaced (b : Boundary) (c : CallFact) : Prop :=
  Verb.read? c.method = none ∨ Text.isBlankText c.url = true ∨
    (b.normalize c.url).standing = .unclassified

/-- The call has a method and a path inside the boundary. -/
structure IsPlaced (b : Boundary) (c : CallFact) (v : Verb) (path : String) : Prop where
  verb : Verb.read? c.method = some v
  inside : (b.normalize c.url).standing = .internal
  path : (b.normalize c.url).path? = some path

/-- What may become of a call, with the reason for it. -/
inductive Decides (b : Boundary) (table : List Place) (c : CallFact) : Decision → Prop
  | unplaced (h : IsUnplaced b c) (method path : String) :
      Decides b table c (.raised (unplaced c method path))
  | suggested {s : VariableSuggestion} (h : ¬ IsUnplaced b c)
      (hname : (b.normalize c.url).unlisted? = some s.envVar) :
      Decides b table c (.raised (.suggestion s))
  | ignored (h : ¬ IsUnplaced b c) (houtside : (b.normalize c.url).standing = .external) :
      Decides b table c .ignored
  | served {v : Verb} {path : String} {place : Place} (h : IsPlaced b c v path)
      (hanswer : answer? table v path = some place) : Decides b table c (.served place.2)
  | mismatched {v : Verb} {path : String} {m : MethodMismatch} (h : IsPlaced b c v path)
      (hanswer : answer? table v path = none) (hne : supported table v path ≠ [])
      (hpath : m.path = path) (hcalled : m.calledMethod = v.name)
      (hmethods : m.supportedMethods = supported table v path) :
      Decides b table c (.raised (.mismatch m))
  | missing {v : Verb} {path : String} {m : MissingEndpoint} (h : IsPlaced b c v path)
      (hanswer : answer? table v path = none) (hnil : supported table v path = [])
      (hhigh : m.confidence = .high) : Decides b table c (.raised (.missing m))

section Reasons
variable {b : Boundary} {table : List Place} {c : CallFact} {v : Verb} {path : String}

theorem IsPlaced.not_isUnplaced (h : IsPlaced b c v path) : ¬ IsUnplaced b c := by
  rintro (hverb | hblank | hstanding)
  · rw [h.verb] at hverb
    cases hverb
  · have := h.inside
    rw [Boundary.standing_of_isBlankText hblank] at this
    cases this
  · rw [h.inside] at hstanding
    cases hstanding

/-- A call has one place at most. -/
theorem IsPlaced.unique {v' : Verb} {path' : String} (h : IsPlaced b c v path)
    (h' : IsPlaced b c v' path') : v' = v ∧ path' = path := by
  have hverb := h'.verb
  have hpath := h'.path
  rw [h.verb] at hverb
  rw [h.path] at hpath
  cases hverb
  cases hpath
  exact ⟨rfl, rfl⟩

theorem decides_decisionAt (h : IsPlaced b c v path) :
    Decides b table c (decisionAt table c v path) := by
  unfold decisionAt
  split
  · next place hanswer => exact .served h hanswer
  · next hanswer =>
    split
    · next hnil => exact .missing h hanswer hnil rfl
    · next hne => exact .mismatched h hanswer hne rfl rfl rfl

theorem decides_decision (b : Boundary) (table : List Place) (c : CallFact) :
    Decides b table c (decision b table c) := by
  unfold decision
  split
  · next hverb => exact .unplaced (.inl hverb) _ _
  next v hverb =>
  split
  · next hblank => exact .unplaced (.inr (.inl hblank)) _ _
  next hblank =>
  have hplaced : (b.normalize c.url).standing ≠ .unclassified → ¬ IsUnplaced b c := by
    rintro hstanding (h | h | h)
    · rw [hverb] at h
      cases h
    · exact hblank h
    · exact hstanding h
  dsimp only
  split
  · next hstanding => exact .ignored (hplaced (by simp [hstanding])) hstanding
  · next hstanding =>
    obtain ⟨name, hname⟩ := Boundary.exists_unlisted?_iff.mpr hstanding
    refine .suggested (hplaced (by simp [hstanding])) ?_
    rw [Normalized.unlisted?, if_pos hstanding] at hname ⊢
    simp [hname]
  · next hstanding => exact .unplaced (.inr (.inr hstanding)) _ _
  · next hstanding =>
    obtain ⟨path, hpath⟩ := Boundary.exists_path?_of_internal hstanding
    simp only [hpath, Option.getD_some]
    exact decides_decisionAt ⟨hverb, hstanding, hpath⟩

theorem decision_of_isPlaced (h : IsPlaced b c v path) :
    decision b table c = decisionAt table c v path := by
  have hblank : Text.isBlankText c.url = false :=
    Bool.eq_false_iff.mpr fun hblank => h.not_isUnplaced (.inr (.inl hblank))
  simp only [decision, h.verb, hblank, h.inside, h.path, Bool.false_eq_true, if_false,
    Option.getD_some]

theorem call?_of_decisionAt {issue : Issue} (h : decisionAt table c v path = .raised issue) :
    issue.call? = some (v.name, c.url, c.callerRepo) := by
  unfold decisionAt at h
  split at h
  · cases h
  · split at h
    · cases h
      rfl
    · cases h
      rfl

/-- Whether an issue is raised depends on whether there is an answer, and not on which one. -/
theorem issue?_decision_congr {table' : List Place}
    (hanswer : ∀ v path, answer? table v path = none ↔ answer? table' v path = none)
    (hsupported : ∀ v path, supported table v path = supported table' v path) :
    (decision b table c).issue? = (decision b table' c).issue? := by
  have hat : ∀ v path,
      (decisionAt table c v path).issue? = (decisionAt table' c v path).issue? := by
    intro v path
    have hnone := hanswer v path
    simp only [decisionAt, hsupported]
    cases h : answer? table v path <;> cases h' : answer? table' v path
    · rfl
    · simp [h, h'] at hnone
    · simp [h, h'] at hnone
    · rfl
  simp only [decision]
  split
  · rfl
  split
  · rfl
  split
  · rfl
  · rfl
  · rfl
  · exact hat _ _

theorem issue?_eq_some_iff {made : Decision} {issue : Issue} :
    made.issue? = some issue ↔ made = .raised issue := by
  cases made <;> simp [Decision.issue?]

end Reasons

/-! ## Equal calls -/

section Calls
variable {b : Boundary} {table : List Place} {c d : CallFact}

/-- An issue names the call that raised it; a call without a method may be named as unknown. -/
theorem callKey_of_raised {issue : Issue} (h : decision b table c = .raised issue) :
    ∃ method, issue.call? = some (method, c.url, c.callerRepo) ∧
      (method = Verb.canonical c.method ∨ method = "UNKNOWN") := by
  unfold decision at h
  split at h
  · cases h
    refine ⟨_, rfl, ?_⟩
    split
    · exact .inr rfl
    · exact .inl rfl
  · next v hverb =>
    refine ⟨v.name, ?_, .inl (Verb.canonical_of_read? hverb).symm⟩
    split at h
    · cases h
      rfl
    · dsimp only at h
      split at h
      · cases h
      · cases h
        rfl
      · cases h
        rfl
      · exact call?_of_decisionAt h

theorem orphan_call? (r : Row) : (orphan r).call? = none := rfl

/-- The decision without the place of the call in the code. -/
def Decision.unlocated : Decision → Decision
  | raised issue => raised issue.unlocated
  | made => made

theorem issue?_unlocated (made : Decision) :
    made.unlocated.issue? = made.issue?.map Issue.unlocated := by
  cases made <;> rfl

/-- Equal calls are decided alike, but for their location. -/
theorem unlocated_decision_congr (h : callKey c = callKey d) :
    (decision b table c).unlocated = (decision b table d).unlocated := by
  obtain ⟨method, url, repo, location⟩ := c
  obtain ⟨method', url', repo', location'⟩ := d
  simp only [callKey, Prod.mk.injEq] at h
  obtain ⟨hmethod, rfl, rfl⟩ := h
  simp only [decision, Verb.read?_congr hmethod, hmethod, decisionAt]
  split
  · rfl
  split
  · rfl
  split
  · rfl
  · rfl
  · rfl
  split
  · rfl
  split
  · rfl
  · rfl

end Calls

end ServiceContracts.Matching
