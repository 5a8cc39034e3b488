/-!
# Binary floating point in exact arithmetic

A `Binary64` is a double as data: a mantissa below `2 ^ 53` times a power of two. Rounding is to the
nearest, ties to even, and works on natural numbers only.

* `ofRatio` : the double nearest to a quotient;
* `ofDecimal` : the double nearest to `digits · 10 ^ exponent`;
* `ofNat?` : the double nearest to a natural number, if it is not too large;
* `add`, `mul` : sums and products, rounded once;
* `integral?` : the integer that a double equals, if it equals one.
-/

namespace ServiceContracts.Number

/-- A double: a finite one is `mantissa · 2 ^ exponent`, the mantissa with 53 bits unless the
exponent is the least one. -/
inductive Binary64 where
  | nan
  | infinite (negative : Bool)
  | finite (negative : Bool) (mantissa : Nat) (exponent : Int)
deriving DecidableEq, Repr

namespace Binary64

/-- The number of binary digits. -/
def bits (n : Nat) : Nat := if n = 0 then 0 else n.log2 + 1

/-- The least exponent. -/
def leastExponent : Int := -1074

/-- The greatest exponent. -/
def greatestExponent : Int := 971

/-- The bound `2 ^ 53` of mantissas. -/
def precision : Nat := Nat.pow 2 53

/-- A quotient rounded to the nearest integer, a tie to the even one. -/
def roundHalfEven (num den : Nat) : Nat :=
  let q := num / den
  let twice := 2 * (num % den)
  if twice < den then q
  else if twice = den then q + q % 2
  else q + 1

/-- A double with the given sign and a mantissa of at most `2 ^ 53`. -/
def pack (negative : Bool) (mantissa : Nat) (exponent : Int) : Binary64 :=
  let (m, e) := if mantissa = precision then (precision / 2, exponent + 1) else (mantissa, exponent)
  if e > greatestExponent then infinite negative else finite negative m e

/-- `num / den` in units of `2 ^ exponent`. -/
def scaled (num den : Nat) (exponent : Int) : Nat × Nat :=
  if exponent < 0 then (num * Nat.pow 2 exponent.natAbs, den)
  else (num, den * Nat.pow 2 exponent.natAbs)

def ofRatio (negative : Bool) (num den : Nat) : Binary64 :=
  if num = 0 then finite negative 0 leastExponent
  else
    let guess : Int := max ((bits num : Int) - bits den - 53) leastExponent
    let (n, d) := scaled num den guess
    let exponent := if n / d < precision then guess else guess + 1
    let (n, d) := scaled num den exponent
    pack negative (roundHalfEven n d) exponent

/-- The number of decimal digits, none for zero. -/
def decimals (n : Nat) : Nat := if n = 0 then 0 else (Nat.toDigits 10 n).length

def ofDecimal (negative : Bool) (digits : Nat) (exponent : Int) : Binary64 :=
  let size : Int := exponent + decimals digits
  if digits = 0 then finite negative 0 leastExponent
  else if size > 400 then infinite negative
  else if size < -400 then finite negative 0 leastExponent
  else if exponent < 0 then ofRatio negative digits (Nat.pow 10 exponent.natAbs)
  else ofRatio negative (digits * Nat.pow 10 exponent.natAbs) 1

/-- The double nearest to `m · 2 ^ exponent`, with the given sign. -/
def ofDyadic (negative : Bool) (m : Nat) (exponent : Int) : Binary64 :=
  if exponent < 0 then ofRatio negative m (Nat.pow 2 exponent.natAbs)
  else ofRatio negative (m * Nat.pow 2 exponent.natAbs) 1

/-- Positive zero. -/
def zero : Binary64 := finite false 0 leastExponent

/-- The double nearest to a natural number; none if it is beyond all of them. -/
def ofNat? (n : Nat) : Option Binary64 :=
  match ofRatio false n 1 with
  | finite negative m e => some (finite negative m e)
  | _ => none

/-- The mantissa with its sign. -/
def signed (negative : Bool) (m : Nat) : Int := if negative then -m else m

/-- The sum of two doubles; two infinities of different signs have none. A sum of zero is negative
only if both parts are. -/
def add : Binary64 → Binary64 → Binary64
  | finite n m e, finite n' m' e' =>
    let least := min e e'
    let left := signed n (m * Nat.pow 2 (e - least).natAbs)
    let right := signed n' (m' * Nat.pow 2 (e' - least).natAbs)
    let sum := left + right
    ofDyadic (if sum = 0 then n && n' else sum < 0) sum.natAbs least
  | nan, _ | _, nan => nan
  | infinite n, infinite n' => if n = n' then infinite n else nan
  | infinite n, _ | _, infinite n => infinite n

def mul : Binary64 → Binary64 → Binary64
  | finite n m e, finite n' m' e' => ofDyadic (n != n') (m * m') (e + e')
  | nan, _ | _, nan => nan
  | infinite n, infinite n' => infinite (n != n')
  | infinite n, finite n' m _ | finite n m _, infinite n' =>
    if m = 0 then nan else infinite (n != n')

def integral? : Binary64 → Option Int
  | finite negative m e =>
    let magnitude :=
      if e ≥ 0 then some (m * Nat.pow 2 e.natAbs)
      else if m % Nat.pow 2 e.natAbs = 0 then some (m / Nat.pow 2 e.natAbs) else none
    magnitude.map fun n => if negative then -n else n
  | _ => none

/-- Not a NaN and not infinite. -/
def isFinite : Binary64 → Bool
  | finite .. => true
  | _ => false

/-- The number with the opposite sign. -/
def negate : Binary64 → Binary64
  | nan => nan
  | infinite negative => infinite !negative
  | finite negative m e => finite (!negative) m e

end Binary64

end ServiceContracts.Number
