import ServiceContracts.Number.Integer
import ServiceContracts.Text.Blank
import ServiceContracts.Text.Ranges

/-!
# Integers in a text

A count may be given as a text. Usually that is a decimal integer; if not, it is tidied and read
once more: blanks around it, a plus sign, zeros in front, a fraction of zeros and single underscores
are dropped. A minus sign stays in front.

* `read` : the integer that a text spells;
* `tidy?` : a text that is tidied.
-/

namespace ServiceContracts.Schema.Count
open Number Text

/-- Why a text spells no integer. -/
inductive Misspelling where
  | unparsable
  | overlong
deriving DecidableEq, Repr

/-- The wording of a misspelling. -/
def Misspelling.message : Misspelling → String
  | unparsable => "Input should be a valid integer, unable to parse string as an integer"
  | overlong => "Unable to parse input string as an integer, exceeded maximum size"

/-- The decimal integer that a text is: a minus sign, if there is one, and digits without a zero in
front of others. A run of digits that is too long is refused whatever follows it. -/
def decimal (cs : List Char) : Except Misspelling Int :=
  let (negative, body) := match cs with
    | '-' :: body => (true, body)
    | _ => (false, cs)
  let run := body.takeWhile isDigit
  if run.head? = some '0' then if body = ['0'] then .ok 0 else .error .unparsable
  else if run.length > digitLimit then .error .overlong
  else if run.isEmpty || run.length < body.length then .error .unparsable
  else
    let n : Int := decimalValue run
    .ok (if negative then -n else n)

/-! ## Tidying -/

/-- A blank around a count: a Unicode space. -/
def isSpace (c : Char) : Bool := isBlank c && !(28 ≤ c.toNat && c.toNat ≤ 31)

/-- Zeros and underscores dropped up to a digit or a sign; a point and the end keep the character
before, `last`. -/
def dropZeros (last : Char) : List Char → Option (List Char)
  | [] => some [last]
  | c :: cs =>
    if c = '0' || c = '_' then dropZeros c cs
    else if isDigit c || c = '-' then some (c :: cs)
    else if c = '.' then some (last :: c :: cs)
    else none

/-- Zeros in front dropped; a digit must come first. -/
def dropLeadingZeros : List Char → Option (List Char)
  | '0' :: cs => dropZeros '0' cs
  | c :: cs => if isDigit c then some (c :: cs) else none
  | [] => none

/-- A point with zeros only behind it dropped. -/
def dropZeroFraction (cs : List Char) : List Char :=
  let zeros := (cs.dropWhile (· != '.')).drop 1
  if !zeros.isEmpty && zeros.all (· == '0') then cs.takeWhile (· != '.') else cs

/-- Two underscores stand side by side. -/
def hasDouble : List Char → Bool
  | '_' :: '_' :: _ => true
  | _ :: cs => hasDouble cs
  | [] => false

/-- Underscores dropped if each of them stands alone between other characters. -/
def dropUnderscores (cs : List Char) : List Char :=
  if cs.head? = some '_' || cs.getLast? = some '_' || hasDouble cs then cs
  else cs.filter (· != '_')

/-- What stays of the sign of a text, and the text behind it. A plus sign is dropped; a minus sign
may not follow it. -/
def splitSign? : List Char → Option (List Char × List Char)
  | '+' :: '-' :: _ => none
  | '+' :: cs => some ([], cs)
  | '-' :: cs => some (['-'], cs)
  | cs => some ([], cs)

def tidy? (cs : List Char) : Option (List Char) := do
  let (sign, body) ← splitSign? (dropEndsWhile isSpace cs)
  let digits ← dropLeadingZeros body
  return sign ++ dropUnderscores (dropZeroFraction digits)

def read (cs : List Char) : Except Misspelling Int :=
  match decimal cs with
  | .error .unparsable =>
    match tidy? cs with
    | some cs => (decimal cs).mapError fun _ => .unparsable
    | none => .error .unparsable
  | found => found

end ServiceContracts.Schema.Count
