import ServiceContracts.Number.Binary64

/-!
# The shortest decimal of a double

Of all decimals that round to a double the one with the fewest digits is shown, and of those the
nearest. A grid of `n` significant digits is tried for `n` from 1 to 17: if it meets the interval
that rounds to the double, one of the two neighbours of the double on the grid does.

Numbers from `10 ^ -4` up to `10 ^ 16` are written positionally and always with a point; others have
an exponent with a sign and at least two digits.
-/

namespace ServiceContracts.Number.Binary64

/-- A quotient of natural numbers. -/
structure Ratio where
  num : Nat
  den : Nat

/-- `m · 2 ^ e · 10 ^ -k`. -/
def Ratio.ofParts (m : Nat) (e k : Int) : Ratio :=
  { num := m * (if e ≥ 0 then Nat.pow 2 e.natAbs else 1) *
      (if k ≥ 0 then 1 else Nat.pow 10 k.natAbs)
    den := (if e ≥ 0 then 1 else Nat.pow 2 e.natAbs) *
      (if k ≥ 0 then Nat.pow 10 k.natAbs else 1) }

/-- The number `d` with `10 ^ (d - 1) ≤ m · 2 ^ e < 10 ^ d`, for positive `m`. -/
def magnitude (m : Nat) (e : Int) : Int :=
  let r := Ratio.ofParts m e 0
  if r.den ≤ r.num then decimals (r.num / r.den)
  else 1 - decimals ((r.den + r.num - 1) / r.num - 1)

/-- The interval of numbers that round to `m · 2 ^ e`, in units of `2 ^ (e - 2)`. -/
def interval (m : Nat) (e : Int) : Nat × Nat :=
  (if m = precision / 2 ∧ e > leastExponent then 4 * m - 1 else 4 * m - 2, 4 * m + 2)

/-- The grid point `t · 10 ^ k` rounds to `m · 2 ^ e`; the ends of the interval do so for even
mantissas. -/
def roundsTo (m : Nat) (e : Int) (t : Nat) (k : Int) : Bool :=
  let (low, high) := interval m e
  let l := Ratio.ofParts low (e - 2) k
  let h := Ratio.ofParts high (e - 2) k
  if m % 2 = 0 then l.num ≤ t * l.den && t * h.den ≤ h.num
  else l.num < t * l.den && t * h.den < h.num

/-- The digits on the grid of `n` significant digits, if a neighbour on it rounds to the double. -/
def onGrid? (m : Nat) (e : Int) (n : Nat) : Option (Nat × Int) :=
  let k := magnitude m e - n
  let r := Ratio.ofParts m e k
  let t := r.num / r.den
  let below := roundsTo m e t k
  let above := roundsTo m e (t + 1) k
  let twice := 2 * (r.num % r.den)
  if below && above then
    some (if twice < r.den || (twice = r.den && t % 2 = 0) then t else t + 1, k)
  else if below then some (t, k)
  else if above then some (t + 1, k)
  else none

/-- The shortest digits and their exponent, trying `left` grids from `n` digits on. -/
def shortestFrom (m : Nat) (e : Int) : Nat → Nat → Nat × Int
  | 0, _ => (m, e)
  | left + 1, n => (onGrid? m e n).getD (shortestFrom m e left (n + 1))

/-- Drop trailing zeros of a decimal; at most `fuel` of them. -/
def dropZeros : Nat → Nat → Int → Nat × Int
  | 0, digits, k => (digits, k)
  | fuel + 1, digits, k =>
    if digits % 10 = 0 && digits != 0 then dropZeros fuel (digits / 10) (k + 1) else (digits, k)

/-- The shortest decimal that rounds to `m · 2 ^ e`, as digits and the exponent of the last one. -/
def shortest (m : Nat) (e : Int) : Nat × Int :=
  let (digits, k) := shortestFrom m e 17 1
  dropZeros 20 digits k

/-- Digits with the decimal point behind `point` of them. -/
def layout (digits : List Char) (point : Int) : List Char :=
  if -4 < point ∧ point ≤ 16 then
    if point ≤ 0 then '0' :: '.' :: (List.replicate point.natAbs '0' ++ digits)
    else
      let whole := digits.take point.natAbs
      let part := digits.drop point.natAbs
      whole ++ List.replicate (point.natAbs - whole.length) '0' ++
        '.' :: (if part.isEmpty then ['0'] else part)
  else
    let exponent := point - 1
    let size := Nat.toDigits 10 exponent.natAbs
    digits.take 1 ++ (if digits.length = 1 then [] else '.' :: digits.drop 1) ++
      'e' :: (if exponent < 0 then '-' else '+') ::
        (List.replicate (2 - size.length) '0' ++ size)

/-- The text of a double. -/
def text : Binary64 → String
  | nan => "nan"
  | infinite negative => if negative then "-inf" else "inf"
  | finite negative m e =>
    let body :=
      if m = 0 then ['0', '.', '0']
      else
        let (digits, k) := shortest m e
        let shown := Nat.toDigits 10 digits
        layout shown (shown.length + k)
    String.ofList (if negative then '-' :: body else body)

end ServiceContracts.Number.Binary64
