import ServiceContracts.Proofs.Boundary.Widening
import ServiceContracts.Proofs.CallTarget.Paths
import ServiceContracts.Proofs.Matching.Decision
import ServiceContracts.Proofs.Path.Unchanged

/-!
# What is told of a normalized target

A target is told by its side, its path, the variable that holds its base, and that variable once
more if the boundary does not mention it. However the target is written, these parts fit together,
and the matching of calls gets the path of every target inside, in canonical form.

* `exists_envBased_of_envVar?` : a target with a variable is one that is based on it;
* `standing_of_envVar?` : the variable decides on which side the target lies;
* `isExternal_of_unlisted?` : what is not mentioned lies outside;
* `normalize_coherent` : how the parts fit together.
-/

namespace ServiceContracts.Boundary
open Matching

section Parts
variable {b : Boundary} {raw name : String}

theorem exists_envBased_of_envVar? (h : (b.normalize raw).envVar? = some name) :
    ∃ spelling path, CallTarget.read raw = .envBased name spelling path := by
  unfold normalize at h
  cases htarget : CallTarget.read raw with
  | envBased other spelling path =>
    rw [htarget] at h
    obtain rfl : other = name := Option.some.inj h
    exact ⟨spelling, path, rfl⟩
  | unknown | relative | absolute =>
    rw [htarget] at h
    cases h

/-- A variable decides on which side the target lies, and there is always an answer. -/
theorem standing_of_envVar? (h : (b.normalize raw).envVar? = some name) :
    ((b.normalize raw).standing = .internal ↔ name ∈ b.internalVariables) ∧
      (b.normalize raw).standing ≠ .unclassified := by
  obtain ⟨spelling, path, htarget⟩ := exists_envBased_of_envVar? h
  have hstanding : (b.normalize raw).standing = b.standing (.envBased name spelling path) :=
    congrArg b.standing htarget
  rw [hstanding]
  exact ⟨standing_envBased_eq_internal_iff, standing_envBased_ne_unclassified⟩

theorem isExternal_of_unlisted? (h : (b.normalize raw).unlisted? = some name) :
    (b.normalize raw).isExternal = true := by
  have hstanding := exists_unlisted?_iff.mp ⟨name, h⟩
  simp [Normalized.isExternal, hstanding]

end Parts

/-- However a target is written: inside it has a path; a variable puts it inside just if it is
listed as internal, and leaves it unplaced never; the variable is told as unlisted just if the
target lies outside and neither list has it; and every path is canonical. So a call to a target
inside is matched by the path of the target, and nothing stands in for that path. -/
theorem normalize_coherent (b : Boundary) (raw : String) :
    ((b.normalize raw).standing = .internal → ∃ path, (b.normalize raw).path? = some path) ∧
    (∀ name, (b.normalize raw).envVar? = some name →
      ((b.normalize raw).standing = .internal ↔ name ∈ b.internalVariables) ∧
      (b.normalize raw).standing ≠ .unclassified) ∧
    (∀ name, (b.normalize raw).unlisted? = some name ↔
      (b.normalize raw).isExternal = true ∧ (b.normalize raw).envVar? = some name ∧
        name ∉ b.internalVariables ∧ name ∉ b.externalVariables) ∧
    (∀ path, (b.normalize raw).path? = some path →
      path.toList.head? = some '/' ∧
      ¬ ['/', '/'] <:+: path.toList ∧
      (path.toList.getLast? = some '/' → path = "/") ∧
      '#' ∉ path.toList ∧
      ∀ front back, path.toList = front ++ '?' :: back → front.getLast? = some '\\') ∧
    ∀ table c v, c.url = raw → Verb.read? c.method = some v →
      (b.normalize raw).standing = .internal →
      ∃ path, (b.normalize raw).path? = some path ∧
        decision b table c = decisionAt table c v path := by
  refine ⟨exists_path?_of_internal, fun name => standing_of_envVar?, fun name => ?_,
    fun path hpath => (Path.isCanonical_iff path).mp (isCanonical_path? hpath), ?_⟩
  · rw [unlisted?_eq_some_iff]
    refine ⟨fun h => ⟨?_, h⟩, fun h => h.2⟩
    exact isExternal_of_unlisted? (unlisted?_eq_some_iff.mpr h)
  · rintro table c v rfl hverb hinside
    obtain ⟨path, hpath⟩ := exists_path?_of_internal hinside
    exact ⟨path, hpath, decision_of_isPlaced ⟨hverb, hinside, hpath⟩⟩

/-- A base alone is the root of an internal service; behind a variable that nobody mentions the path
keeps an escaped query mark and loses slashes and query. -/
theorem normalize_coherent_bases :
    let b : Boundary := { internalVariables := ["API"], externalVariables := ["CDN"] }
    let call : CallFact := { method := "get", url := "ENV_VAR:API", callerRepo := "web" }
    ((b.normalize call.url).standing = .internal ∧ (b.normalize call.url).path? = some "/" ∧
      ∀ table, decision b table call = decisionAt table call .get "/") ∧
    (b.normalize "$\x7bLEGACY\x7d/a\\?b//c/?q").path? = some "/a\\?b/c" ∧
    (b.normalize "$\x7bLEGACY\x7d/a\\?b//c/?q").isExternal = true := by
  intro b call
  have hinside : (b.normalize call.url).standing = .internal := by decide +kernel
  have hroot : (b.normalize call.url).path? = some "/" := by decide +kernel
  have hverb : Verb.read? call.method = some .get := by decide +kernel
  obtain ⟨-, -, -, -, hmatched⟩ := normalize_coherent b call.url
  refine ⟨⟨hinside, hroot, fun table => ?_⟩, by decide +kernel, ?_⟩
  · obtain ⟨path, hpath, hdecision⟩ := hmatched table call .get rfl hverb hinside
    obtain rfl : "/" = path := Option.some.inj (hroot.symm.trans hpath)
    exact hdecision
  · obtain ⟨-, -, hunlisted, -, -⟩ := normalize_coherent b "$\x7bLEGACY\x7d/a\\?b//c/?q"
    exact ((hunlisted "LEGACY").mp (by decide +kernel)).1

end ServiceContracts.Boundary
