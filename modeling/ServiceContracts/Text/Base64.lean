/-!
# Decoding base 64

Characters outside of the alphabet are skipped. Padding that completes a group of four ends the
text; a group that stays incomplete is a fault.
-/

namespace ServiceContracts.Text.Base64

/-- The value of a character of the alphabet. -/
def value? (c : Char) : Option Nat :=
  if 'A' ≤ c && c ≤ 'Z' then some (c.toNat - 'A'.toNat)
  else if 'a' ≤ c && c ≤ 'z' then some (c.toNat - 'a'.toNat + 26)
  else if '0' ≤ c && c ≤ '9' then some (c.toNat - '0'.toNat + 52)
  else if c = '+' then some 62
  else if c = '/' then some 63
  else none

/-- The bytes of a text, `group` being the values of the incomplete group before it, the last one
first, and `pads` the padding since then. -/
def decodeFrom (group : List Nat) (pads : Nat) : List Char → Option (List UInt8)
  | [] => if group.isEmpty then some [] else none
  | c :: cs =>
    if c = '=' then
      if group.length ≥ 2 && group.length + pads + 1 ≥ 4 then some []
      else decodeFrom group (if group.length ≥ 2 then pads + 1 else pads) cs
    else
      match value? c, group with
      | none, _ => decodeFrom group pads cs
      | some v, [] => decodeFrom [v] 0 cs
      | some v, [a] => (decodeFrom [v, a] 0 cs).map ((a * 4 + v / 16).toUInt8 :: ·)
      | some v, [b, a] => (decodeFrom [v, b, a] 0 cs).map ((b * 16 + v / 4).toUInt8 :: ·)
      | some v, b :: _ => (decodeFrom [] 0 cs).map ((b * 64 + v).toUInt8 :: ·)

/-- The bytes that a text stands for. -/
def decode? (cs : List Char) : Option (List UInt8) := decodeFrom [] 0 cs

end ServiceContracts.Text.Base64
