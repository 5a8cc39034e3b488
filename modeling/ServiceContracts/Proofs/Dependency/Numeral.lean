import ServiceContracts.Proofs.Dependency.Spelled
import ServiceContracts.Proofs.Number.Decimal

/-!
# Numerals as versions

A declared version that is a plain number counts as it stands, with that number as its major one. So
there are versions of every length, those that are too long to be read among them.

* `digits?_numeral` : all its digits are those of the major number;
* `cleanChars_numeral` : nothing is taken off a numeral;
* `isReadable_numeral_iff` : it can be read just if it has not too many of them.
-/

namespace ServiceContracts.Dependency
open Number Text

variable {cs : List Char}

theorem digits?_numeral (h : ∀ c ∈ cs, isDigit c = true) (hne : cs ≠ []) :
    Version.digits? cs = some (cs, [], []) := by
  have hdecimal : ∀ c ∈ cs, isDecimal c = true := fun c hc => isDecimal_of_isDigit (h c hc)
  have hfeed : '\n' ∉ cs ++ [] := by
    rw [List.append_nil]
    exact fun hc => absurd (h '\n' hc) (by decide)
  have hnone : Version.component [] = ([], []) := component_of_head? (by simp)
  have hdigits := digits?_append hdecimal hne (by simp) hfeed hnone hnone rfl
  rwa [List.append_nil] at hdigits

/-- Nothing is taken off a numeral, as it spells a version. -/
theorem cleanChars_numeral (h : ∀ c ∈ cs, isDigit c = true) (hne : cs ≠ []) :
    Version.cleanChars cs = cs := by
  have htrim : trimChars cs = cs :=
    trimChars_eq_self fun c hc => isBlank_of_isDecimal (isDecimal_of_isDigit (h c hc))
  have hspelled : Version.digits? (trimChars cs) = some (cs, [], []) := by
    rw [htrim, digits?_numeral h hne]
  rw [cleanChars_of_digits? hspelled, htrim]

/-- A numeral can be read just if it has not too many digits. -/
theorem isReadable_numeral_iff (h : ∀ c ∈ cs, isDigit c = true) (hne : cs ≠ []) :
    IsReadable (versionText (String.ofList cs)) ↔ cs.length ≤ digitLimit := by
  have htext : versionText (String.ofList cs) = String.ofList cs := by
    simp [versionText, Version.clean, cleanChars_numeral h hne, hne]
  rw [htext, IsReadable, String.toList_ofList, digits?_numeral h hne]
  simp

theorem not_isReadable_replicate {n : Nat} (h : digitLimit < n) :
    ¬ IsReadable (versionText (String.ofList (List.replicate n '1'))) := by
  have hdigits : ∀ c ∈ List.replicate n '1', isDigit c = true := fun c hc => by
    rw [List.eq_of_mem_replicate hc]
    decide
  have hne : List.replicate n '1' ≠ [] := by
    rw [Ne, List.replicate_eq_nil_iff]
    omega
  rw [isReadable_numeral_iff hdigits hne, List.length_replicate]
  omega

end ServiceContracts.Dependency
