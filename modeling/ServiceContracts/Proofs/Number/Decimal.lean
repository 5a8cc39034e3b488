import Mathlib.Data.List.Basic
import Mathlib.Data.Nat.Digits.Defs
import ServiceContracts.Number.Integer
import ServiceContracts.Proofs.Text.Lower

/-!
# Integers written in decimal

* `isDigit_of_mem_natText`, `head?_natText` : decimal digits, with a zero in front only for zero;
* `isShort_iff` : the integers with few enough digits;
* `decimalValue_natText` : the digits of a number spell it;
* `readNat_natText` : a number with few enough digits is read as it was written;
* `IsNumeral`, `isNumeral_iff` : the digits of a number in any script, with any zeros in front;
* `isNumeral_zeros_append` : zeros in front of a written number make a numeral of it.
-/

namespace ServiceContracts.Number
open Text

variable {n : Nat} {c : Char} {cs : List Char}

theorem natText_ne_nil (n : Nat) : natText n ≠ [] := Nat.toDigits_ne_nil

theorem isDigit_of_mem_natText (h : c ∈ natText n) : isDigit c = true :=
  Nat.isDigit_of_mem_toDigits (by decide) (by decide) h

theorem digitValue?_of_isDigit (h : isDigit c = true) :
    digitValue? c = some (c.toNat - '0'.toNat) := by
  refine ascii_forall (P := fun c => isDigit c = true →
    digitValue? c = some (c.toNat - '0'.toNat)) ?_ (toNat_lt_of_isDigit h) h
  decide +kernel

theorem decimalValue_of_isDigit (h : ∀ c ∈ cs, isDigit c = true) :
    decimalValue cs = Nat.ofDigitChars 10 cs 0 := by
  rw [decimalValue, Nat.ofDigitChars_eq_foldl]
  apply List.foldl_ext
  intro value c hc
  rw [digitValue?_of_isDigit (h c hc), Option.getD_some]

theorem isShort_iff (i : Int) : IsShort i ↔ i.natAbs < 10 ^ digitLimit :=
  Nat.length_toDigits_le_iff (by decide) (by decide)

theorem decimalValue_natText (n : Nat) : decimalValue (natText n) = n := by
  rw [decimalValue_of_isDigit fun c => isDigit_of_mem_natText]
  exact Nat.ofDigitChars_ten_toDigits

theorem head?_natText (h : (natText n).head? = some '0') : n = 0 := by
  induction n using Nat.strongRecOn with
  | ind n ih =>
    have hdigits : natText n = if n < 10 then [Nat.digitChar n] else
        natText (n / 10) ++ [Nat.digitChar (n % 10)] := Nat.toDigits_eq_if (by decide)
    rw [hdigits] at h
    split at h
    · exact Nat.digitChar_eq_zero.mp (Option.some.inj h)
    · rw [List.head?_append_of_ne_nil _ (natText_ne_nil _)] at h
      have := ih (n / 10) (by omega) h
      omega

theorem readNat_natText (h : (natText n).length ≤ digitLimit) : readNat (natText n) = .ok n := by
  rw [readNat, if_neg (by omega), decimalValue_natText]

/-! ## Numerals -/

/-- The text is written in the decimal digits of a number, the lowest one last, and with few enough
of them to be read. The digits may be those of any script, with any zeros in front. -/
structure IsNumeral (cs : List Char) (n : Nat) : Prop where
  ne_nil : cs ≠ []
  length_le : cs.length ≤ digitLimit
  spelled : ∃ digits : List Nat, cs.map digitValue? = digits.map some ∧
    Nat.ofDigits 10 digits.reverse = n

/-- A run of digits is read in the order of its positions. -/
theorem ofDigits_reverse_eq_decimalValue {digits : List Nat}
    (h : cs.map digitValue? = digits.map some) :
    Nat.ofDigits 10 digits.reverse = decimalValue cs := by
  have hdigits : digits = cs.map fun c => (digitValue? c).getD 0 := by
    have := congrArg (List.map (Option.getD · 0)) h
    simpa only [List.map_map, Function.comp_def, Option.getD_some, List.map_id'] using this.symm
  rw [hdigits, Nat.ofDigits_eq_foldr, List.foldr_reverse, List.foldl_map, decimalValue]
  simp only [Nat.cast_id, Nat.add_comm]

theorem isNumeral_iff : IsNumeral cs n ↔ cs ≠ [] ∧ cs.length ≤ digitLimit ∧
    (∀ c ∈ cs, isDecimal c = true) ∧ decimalValue cs = n := by
  constructor
  · rintro ⟨hne, hlength, digits, hdigits, rfl⟩
    refine ⟨hne, hlength, fun c hc => ?_, (ofDigits_reverse_eq_decimalValue hdigits).symm⟩
    have hvalue : digitValue? c ∈ digits.map some := hdigits ▸ List.mem_map_of_mem hc
    obtain ⟨d, -, hd⟩ := List.mem_map.mp hvalue
    rw [isDecimal, ← hd]
    rfl
  · rintro ⟨hne, hlength, hdecimal, rfl⟩
    have hdigits : cs.map digitValue? = (cs.map fun c => (digitValue? c).getD 0).map some := by
      rw [List.map_map]
      refine List.map_congr_left fun c hc => ?_
      obtain ⟨d, hd⟩ := Option.isSome_iff_exists.mp (hdecimal c hc)
      simp [hd]
    exact ⟨hne, hlength, _, hdigits, ofDigits_reverse_eq_decimalValue hdigits⟩

theorem IsNumeral.isDecimal (h : IsNumeral cs n) : ∀ c ∈ cs, isDecimal c = true :=
  (isNumeral_iff.mp h).2.2.1

theorem IsNumeral.readNat_eq (h : IsNumeral cs n) : readNat cs = .ok n := by
  obtain ⟨-, hlength, -, hvalue⟩ := isNumeral_iff.mp h
  rw [readNat, if_neg (by omega), hvalue]

theorem isDecimal_of_isDigit (h : isDigit c = true) : isDecimal c = true := by
  rw [isDecimal, digitValue?_of_isDigit h]
  rfl

theorem decimalValue_zeros_append (zeros : Nat) (cs : List Char) :
    decimalValue (List.replicate zeros '0' ++ cs) = decimalValue cs := by
  have hzero : (digitValue? '0').getD 0 = 0 := by decide
  induction zeros with
  | zero => rfl
  | succ zeros ih =>
    rw [List.replicate_succ, List.cons_append, decimalValue, List.foldl_cons, hzero]
    exact ih

theorem isNumeral_zeros_append {zeros : Nat} (h : zeros + (natText n).length ≤ digitLimit) :
    IsNumeral (List.replicate zeros '0' ++ natText n) n := by
  refine isNumeral_iff.mpr ⟨by simp [natText_ne_nil], by simpa using h, fun c hc => ?_, ?_⟩
  · rcases List.mem_append.mp hc with hc | hc
    · rw [List.eq_of_mem_replicate hc]
      decide
    · exact isDecimal_of_isDigit (isDigit_of_mem_natText hc)
  · rw [decimalValue_zeros_append, decimalValue_natText]

end ServiceContracts.Number
