import ServiceContracts.Boundary
import ServiceContracts.Proofs.Text.Trim

/-!
# What a boundary makes of a target

* `exists_path?_of_internal` : a target inside has a path;
* `exists_unlisted?_iff` : a target is unlisted just if it has a variable that is not mentioned;
* `name_standing_of_envBased`, `path?_of_envBased`, `unlisted?_of_envBased` : what is told of a
  target with a variable base;
* `standing_of_isBlankText` : a blank target is not placed at all.
-/

namespace ServiceContracts.Boundary
variable {b : Boundary} {raw : String}

/-- Targets inside have a path: those without one are not placed, or have a variable as base. -/
theorem exists_path?_of_internal (h : (b.normalize raw).standing = .internal) :
    ∃ path, (b.normalize raw).path? = some path := by
  unfold normalize at *
  generalize CallTarget.read raw = target at *
  cases target with
  | unknown path => cases h
  | relative path => exact ⟨path, rfl⟩
  | absolute host path => exact ⟨path, rfl⟩
  | envBased name spelling path => exact ⟨path.getD "/", if_pos h⟩

/-- Only a variable as base can be one that is not mentioned. -/
theorem eq_envBased_of_unlisted {target : CallTarget} (h : b.standing target = .unlisted) :
    ∃ name spelling path, target = .envBased name spelling path := by
  cases target with
  | unknown path => cases h
  | relative path => cases h
  | absolute host path =>
    rw [standing] at h
    split at h <;> cases h
  | envBased name spelling path => exact ⟨name, spelling, path, rfl⟩

theorem exists_unlisted?_iff :
    (∃ name, (b.normalize raw).unlisted? = some name) ↔ (b.normalize raw).standing = .unlisted := by
  constructor
  · rintro ⟨name, hname⟩
    by_contra hstanding
    rw [Normalized.unlisted?, if_neg hstanding] at hname
    cases hname
  · intro h
    have hunlisted : b.standing (b.normalize raw).target = .unlisted := h
    obtain ⟨name, spelling, path, htarget⟩ := eq_envBased_of_unlisted hunlisted
    rw [Normalized.unlisted?, if_pos h, Normalized.envVar?, htarget]
    exact ⟨name, rfl⟩

section Variable
variable {name spelling : String} {path : Option String}

theorem standing_envBased_eq_internal_iff :
    b.standing (.envBased name spelling path) = .internal ↔ name ∈ b.internalVariables := by
  rw [standing]
  grind

theorem standing_envBased_eq_unlisted_iff : b.standing (.envBased name spelling path) = .unlisted ↔
    ¬ (name ∈ b.internalVariables ∨ name ∈ b.externalVariables) := by
  rw [standing]
  grind

theorem standing_envBased_ne_unclassified :
    b.standing (.envBased name spelling path) ≠ .unclassified := by
  rw [standing]
  grind

variable (h : CallTarget.read raw = .envBased name spelling path)
include h

theorem name_standing_of_envBased : (b.normalize raw).standing.name =
    if name ∈ b.internalVariables then "internal" else "external" := by
  rw [normalize, h, standing]
  split
  · rfl
  · split <;> rfl

theorem envVar?_of_envBased : (b.normalize raw).envVar? = some name := by
  rw [normalize, h, Normalized.envVar?]

theorem path?_of_envBased : (b.normalize raw).path? =
    if name ∈ b.internalVariables then some (path.getD "/") else path := by
  rw [normalize, h, Normalized.path?]
  simp only [standing_envBased_eq_internal_iff]

theorem unlisted?_of_envBased : (b.normalize raw).unlisted? =
    if name ∈ b.internalVariables ∨ name ∈ b.externalVariables then none else some name := by
  rw [normalize, h, Normalized.unlisted?, Normalized.envVar?]
  simp only [standing_envBased_eq_unlisted_iff, ite_not]

end Variable

theorem standing_of_isBlankText (h : Text.isBlankText raw = true) :
    (b.normalize raw).standing = .unclassified := by
  have htrim : Text.trimChars raw.toList = [] :=
    Text.trimChars_eq_nil_iff.mpr (List.all_eq_true.mp h)
  rw [normalize, CallTarget.read, htrim]
  rfl

end ServiceContracts.Boundary
