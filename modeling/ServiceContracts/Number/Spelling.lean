import ServiceContracts.Number.Binary64
import ServiceContracts.Number.Integer
import ServiceContracts.Text.Blank
import ServiceContracts.Text.Quoted

/-!
# Numbers as they are spelled

A number may be spelled with the digits of any script and with blanks around it. ASCII control
characters other than tabs and line breaks are no blanks here.

* `digits`, `fraction?`, `exponent?` : the parts of a number at the start of a text;
* `integerTo` : the integer that a text spells to a base;
* `doubleOf` : the double that a text spells;
* `Misspelling` : why a text spells no number.
-/

namespace ServiceContracts.Number
open Text

/-! ## Parts of a number -/

def digits (cs : List Char) : List Char × List Char := (cs.takeWhile isDigit, cs.dropWhile isDigit)

/-- The fraction digits at the start, if there is a point with a digit behind it. -/
def fraction? : List Char → Option (List Char × List Char)
  | '.' :: cs =>
    let (ds, rest) := digits cs
    if ds.isEmpty then none else some (ds, rest)
  | _ => none

def exponent? : List Char → Option (Int × List Char)
  | e :: cs =>
    if e = 'e' || e = 'E' then
      let (negative, cs) := match cs with
        | '-' :: cs => (true, cs)
        | '+' :: cs => (false, cs)
        | _ => (false, cs)
      let (ds, rest) := digits cs
      if ds.isEmpty then none
      else
        let n : Int := decimalValue ds
        some (if negative then -n else n, rest)
    else none
  | [] => none

/-- The text behind a sign, if there is one. -/
def afterSign : List Char → List Char
  | '-' :: cs => cs
  | '+' :: cs => cs
  | cs => cs

/-! ## Misspellings -/

inductive Misspelling where
  | integer (base : Nat) (text : List Char)
  | overlong (o : Overlong)
  | double (text : List Char)
deriving DecidableEq, Repr

/-- The wording of a misspelling; at most 200 characters of a quoted integer are shown. -/
def Misspelling.message : Misspelling → String
  | integer base text =>
    "invalid literal for int() with base " ++ toString base ++ ": " ++
      String.ofList ((quoted (String.ofList text)).toList.take 200)
  | overlong o => o.message
  | double text => "could not convert string to float: " ++ quoted (String.ofList text)

/-! ## Blanks and digits -/

/-- A space, a tab or a line break of ASCII. -/
def isGap (c : Char) : Bool := c == ' ' || (9 ≤ c.toNat && c.toNat ≤ 13)

/-- The text in ASCII as far as its characters are blanks and digits; a question mark ends it at any
other one. -/
def toAscii : List Char → List Char
  | [] => []
  | c :: cs =>
    if c.toNat < 127 then c :: toAscii cs
    else if isBlank c then ' ' :: toAscii cs
    else match digitValue? c with
      | some d => Char.ofNat ('0'.toNat + d) :: toAscii cs
      | none => ['?']

/-- The text of a number without the blanks around it. -/
def bare (cs : List Char) : List Char :=
  dropEndsWhile isGap (if cs.all fun c => c.toNat < 128 then cs else toAscii cs)

/-! ## Values -/

/-- The digits behind the mark of a base. -/
def behindMark (base : Nat) : List Char → List Char
  | '0' :: mark :: ds =>
    if (base, mark.toLower) ∈ [(2, 'b'), (8, 'o'), (16, 'x')] then ds else '0' :: mark :: ds
  | ds => ds

/-- The value of a digit to a base of at most sixteen. -/
def digitTo? (base : Nat) (c : Char) : Option Nat := (hexValue? c).filter (· < base)

/-- The integer that a text spells to a base; a sign is allowed. Decimal digits that are too many
are refused even if something else follows them. -/
def integerTo (base : Nat) (text : List Char) : Except Misspelling Int := do
  let cs := bare text
  let ds := behindMark base (afterSign cs)
  let run := ds.takeWhile fun c => (digitTo? base c).isSome
  let magnitude ←
    if base = 10 then (readNat run).mapError .overlong
    else .ok (run.foldl (fun n c => base * n + (digitTo? base c).getD 0) 0)
  if run.isEmpty || run.length < ds.length then .error (.integer base text)
  else .ok (if cs.head? = some '-' then -magnitude else magnitude)

/-- The double that digits with a point and an exponent spell. -/
def decimal? (cs : List Char) : Option Binary64 :=
  let (whole, rest) := digits cs
  let (part, rest) := match rest with
    | '.' :: ds => digits ds
    | _ => ([], rest)
  let scale := match rest with
    | [] => some 0
    | _ => match exponent? rest with
      | some (n, []) => some n
      | _ => none
  if whole.isEmpty && part.isEmpty then none
  else scale.map fun n => .ofDecimal false (decimalValue (whole ++ part)) (n - part.length)

def doubleOf (text : List Char) : Except Misspelling Binary64 :=
  let cs := bare text
  let body := afterSign cs
  let found :=
    if body ∈ ["inf".toList, "infinity".toList] then some (.infinite false)
    else if body == "nan".toList then some .nan
    else decimal? body
  match found with
  | some x => .ok (if cs.head? = some '-' then x.negate else x)
  | none => .error (.double text)

end ServiceContracts.Number
