import ServiceContracts.Document.Yaml.Tag
import ServiceContracts.Text.Base64

/-!
# Values of YAML scalars

What the text of a scalar stands for, once its kind is known.

* `intOf`, `floatOf`, `boolOf`, `bytesOf` : the values of texts of some kind.
-/

namespace ServiceContracts.Document.Yaml
open Number Text

/-- The text without underscores. -/
def withoutUnderscores (cs : List Char) : List Char := cs.filter (· != '_')

/-- The integer that a text spells to a base. -/
def integerTo (base : Nat) (cs : List Char) : Except Fault Int :=
  (Number.integerTo base cs).mapError .badNumber

/-- The integer that parts to base sixty stand for. -/
def sexagesimal (parts : List Int) : Int := parts.foldl (fun n part => 60 * n + part) 0

def intOf (cs : List Char) : Except Fault Int := do
  let cs := withoutUnderscores cs
  let magnitude ← match afterSign cs with
    | [] => .error .emptyNumber
    | ['0'] => .ok 0
    | '0' :: 'b' :: ds => integerTo 2 ds
    | '0' :: 'x' :: ds => integerTo 16 ds
    | '0' :: ds => integerTo 8 ('0' :: ds)
    | ds => ((split ':' ds).mapM (integerTo 10)).map sexagesimal
  .ok (if cs.head? = some '-' then -magnitude else magnitude)

/-- The double that parts to base sixty stand for, the last part first; `unit` is the weight of the
first one. Every product and every sum is rounded. -/
def sexagesimalFloat (unit : Nat) (sum : Binary64) : List Binary64 → Except Fault Binary64
  | [] => .ok sum
  | part :: parts =>
    match Binary64.ofNat? unit with
    | some weight => sexagesimalFloat (60 * unit) (sum.add (part.mul weight)) parts
    | none => .error .oversizedPlace

/-- A number that a text stands for, and whether it is the NaN that all such texts share. -/
def floatOf (cs : List Char) : Except Fault (Binary64 × Bool) := do
  let cs := lowerChars (withoutUnderscores cs)
  let body := afterSign cs
  let signed (x : Binary64) : Binary64 := if cs.head? = some '-' then x.negate else x
  if cs.isEmpty then .error .emptyNumber
  else if body == ".inf".toList then .ok (signed (.infinite false), false)
  else if body == ".nan".toList then .ok (.nan, true)
  else
    let parts ← ((split ':' body).mapM doubleOf).mapError .badNumber
    let x ← match parts with
      | [one] => .ok one
      | parts => sexagesimalFloat 1 .zero parts.reverse
    .ok (signed x, false)

def boolOf (cs : List Char) : Except Fault Bool :=
  let word := String.ofList (lowerChars cs)
  match truths.lookup word with
  | some b => .ok b
  | none => .error (.badWord word)

def bytesOf (cs : List Char) : Except Fault (List UInt8) :=
  match Base64.decode? cs with
  | some content => if cs.all fun c => c.toNat < 128 then .ok content else .error .malformed
  | none => .error .malformed

end ServiceContracts.Document.Yaml
