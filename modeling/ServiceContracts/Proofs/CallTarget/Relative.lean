import ServiceContracts.Proofs.CallTarget.Paths

/-!
# Relative paths

A path with a single slash in front lies inside every boundary, unless a variable is read somewhere
in it, be it in the query: then the variable is taken for the base, and what stands in front of it
is lost.

* `envVar?_of_readsVariable` : the variable that is found is the base;
* `normalize_of_not_readsVariable` : a path without one is cleaned, and no more;
* `normalize_relative` : so it is internal just if it reads no variable.
-/

namespace ServiceContracts.Boundary
open Text ServiceContracts.Path CallTarget

section Relative
variable {b : Boundary} {raw : String}

theorem head?_of_slash {url : List Char} (h : ['/'] <+: url) : url.head? = some '/' := by
  obtain ⟨rest, rfl⟩ := h
  rfl

theorem envVar?_of_readsVariable (hfront : ['/'] <+: trimChars raw.toList)
    (hread : ReadsVariable (trimChars raw.toList)) :
    ∃ name, (b.normalize raw).envVar? = some name ∧
      (b.normalize raw).base? = some ("process.env." ++ name) := by
  obtain ⟨⟨name, rest⟩, hlookup⟩ :=
    Option.ne_none_iff_exists'.mp fun hnone => lookup?_eq_none_iff.mp hnone hread
  obtain ⟨front, hname, -⟩ := exists_of_lookup? hlookup
  have htarget : (b.normalize raw).target =
      ofBase name ("process.env.".toList ++ name) (added rest) :=
    readTrimmed_of_lookup? (head?_of_slash hfront) (by decide) (by decide) hlookup
  have hempty : ¬ name.isEmpty = true := fun h => hname (List.isEmpty_iff.mp h)
  rw [ofBase, if_neg hempty] at htarget
  refine ⟨String.ofList name, ?_, ?_⟩
  · rw [Normalized.envVar?, htarget]
  · rw [Normalized.base?, htarget, String.ofList_append, String.ofList_toList]

theorem normalize_of_not_readsVariable (hfront : ['/'] <+: trimChars raw.toList)
    (hslashes : ¬ ['/', '/'] <+: trimChars raw.toList)
    (hread : ¬ ReadsVariable (trimChars raw.toList)) : b.normalize raw =
      { raw, target := .relative (Path.clean raw), standing := .internal } := by
  have htarget : CallTarget.read raw = .relative (Path.clean raw) := by
    rw [CallTarget.read, readTrimmed_path (head?_of_slash hfront) (after?_eq_none hslashes) hread,
      cleanChars_trimChars]
    rfl
  rw [normalize, htarget]
  rfl

/-- A relative path is internal and is cleaned just if it reads no variable; if it does, then that
is its base. -/
theorem normalize_relative (b : Boundary) (raw : String) (hfront : ['/'] <+: trimChars raw.toList)
    (hslashes : ¬ ['/', '/'] <+: trimChars raw.toList) :
    ((b.normalize raw).standing = .internal ∧ (b.normalize raw).path? = some (Path.clean raw) ∧
      (b.normalize raw).envVar? = none ↔ ¬ ReadsVariable (trimChars raw.toList)) ∧
    (ReadsVariable (trimChars raw.toList) → ∃ name, (b.normalize raw).envVar? = some name ∧
      (b.normalize raw).base? = some ("process.env." ++ name)) := by
  have hbase := fun hread => envVar?_of_readsVariable (b := b) hfront hread
  refine ⟨⟨?_, fun hread => ?_⟩, hbase⟩
  · rintro ⟨-, -, hnone⟩ hread
    obtain ⟨name, hname, -⟩ := hbase hread
    rw [hnone] at hname
    cases hname
  · rw [normalize_of_not_readsVariable hfront hslashes hread]
    exact ⟨rfl, rfl, rfl⟩

end Relative

/-- An interpolation and a query are no matter. -/
theorem normalize_relative_query :
    let b : Boundary := { internalDomains := ["internal"], internalVariables := ["APP_URL"] }
    let raw := " /users/$\x7bid\x7d/?next=process.env#top"
    ['/'] <+: trimChars raw.toList ∧ ¬ ['/', '/'] <+: trimChars raw.toList ∧
      (b.normalize raw).standing = .internal ∧
      (b.normalize raw).path? = some (Path.clean raw) ∧ (b.normalize raw).envVar? = none := by
  intro b raw
  have hfront : ['/'] <+: trimChars raw.toList := by decide +kernel
  have hslashes : ¬ ['/', '/'] <+: trimChars raw.toList := by decide +kernel
  have hread : ¬ ReadsVariable (trimChars raw.toList) := lookup?_eq_none_iff.mp (by decide +kernel)
  exact ⟨hfront, hslashes, (normalize_relative b raw hfront hslashes).1.mpr hread⟩

/-- A variable that the query reads makes a relative path a suggestion for that variable. -/
theorem normalize_relative_suggested :
    let b : Boundary := {}
    let raw := "/login?next=$\x7bprocess.env.APP_URL\x7d/home"
    ['/'] <+: trimChars raw.toList ∧ ¬ ['/', '/'] <+: trimChars raw.toList ∧
      Path.clean raw = "/login" ∧ (b.normalize raw).standing = .unlisted ∧
      (b.normalize raw).path? = some "/\x7d/home" ∧
      (b.normalize raw).envVar? = some "APP_URL" := by
  decide +kernel

end ServiceContracts.Boundary
