import ServiceContracts.Text.Digit

/-!
# Integers in decimal

An integer of more than 4300 decimal digits is neither read nor written.

* `Overlong` : how many digits there were to read; leading zeros count;
* `IsShort`, `Oversized` : the integers that can be written, and the refusal of the other ones.
-/

namespace ServiceContracts.Number

/-- The greatest number of digits that is read or written. -/
def digitLimit : Nat := 4300

/-- An integer with too many digits. -/
structure Overlong where
  digits : Nat
deriving DecidableEq, Repr

/-- The message of an overlong integer. -/
def Overlong.message (o : Overlong) : String :=
  "Exceeds the limit (4300 digits) for integer string conversion: value has " ++
    toString o.digits ++ " digits; use sys.set_int_max_str_digits() to increase the limit"

/-- The number that a run of decimal digits spells. -/
def readNat (digits : List Char) : Except Overlong Nat :=
  if digits.length > digitLimit then .error { digits := digits.length }
  else .ok (Text.decimalValue digits)

/-- The decimal digits of a number. -/
def natText (n : Nat) : List Char := Nat.toDigits 10 n

/-- An integer in decimal. -/
def intText (i : Int) : List Char := if i < 0 then '-' :: natText i.natAbs else natText i.natAbs

/-- The integer has no more digits than are read or written. -/
def IsShort (i : Int) : Prop := (natText i.natAbs).length ≤ digitLimit

instance (i : Int) : Decidable (IsShort i) := inferInstanceAs (Decidable (_ ≤ _))

/-- The refusal to write an integer with too many digits. -/
structure Oversized where
deriving DecidableEq, Repr

/-- The message of an integer that is not written. -/
def Oversized.message (_ : Oversized) : String :=
  "Exceeds the limit (4300 digits) for integer string conversion; " ++
    "use sys.set_int_max_str_digits() to increase the limit"

/-- An integer as it is written. -/
def written (i : Int) : Except Oversized String :=
  if IsShort i then .ok (toString i) else .error {}

end ServiceContracts.Number
