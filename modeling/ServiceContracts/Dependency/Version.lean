import ServiceContracts.Number.Integer
import ServiceContracts.Text.Blank
import ServiceContracts.Text.Ranges

/-!
# Versions

A declared version may be a range. `clean` reduces it to one version text: the upper end of a hyphen
range, the first of several alternatives, without range operators in front. `read` takes a version
text apart into major, minor and patch number; a text of another form has none.
-/

namespace ServiceContracts.Dependency
open Number Text

/-- A version; missing components are zero. -/
structure Version where
  major : Nat
  minor : Nat
  patch : Nat
deriving DecidableEq, Repr

namespace Version

/-- The order of versions: by major, then minor, then patch number. -/
def lt (a b : Version) : Bool :=
  a.major < b.major || (a.major == b.major &&
    (a.minor < b.minor || (a.minor == b.minor && a.patch < b.patch)))

/-- The text behind the last ` - `; `whole` is the text behind the last one so far. -/
def upperEndFrom (whole : List Char) : List Char → List Char
  | ' ' :: '-' :: ' ' :: cs => upperEndFrom cs cs
  | _ :: cs => upperEndFrom whole cs
  | [] => whole

/-- The upper end of a hyphen range; any other text is its own upper end. -/
def upperEnd (cs : List Char) : List Char := upperEndFrom cs cs

/-- The text before the first `||`. -/
def firstAlternative : List Char → List Char
  | '|' :: '|' :: _ => []
  | c :: cs => c :: firstAlternative cs
  | [] => []

/-- A character of the operators in front of a version. -/
def isOperator (c : Char) : Bool := c ∈ ['^', '~', '>', '=', '<', '*', 'v']

/-- The version text that a declared version stands for. -/
def cleanChars (spec : List Char) : List Char :=
  trimChars ((trimChars (firstAlternative (upperEnd (trimChars spec)))).dropWhile isOperator)

def clean (spec : String) : String := String.ofList (cleanChars spec.toList)

/-- A character of what may follow the numbers behind `-` or `+`. -/
def isSuffixChar (c : Char) : Bool := isLetter c || isDigit c || c == '.' || c == '-' || c == '+'

/-- The digits of one more component and what follows them; without one there are none. -/
def component (cs : List Char) : List Char × List Char :=
  match cs with
  | '.' :: ds =>
    if (ds.takeWhile isDecimal).isEmpty then ([], cs)
    else (ds.takeWhile isDecimal, ds.dropWhile isDecimal)
  | _ => ([], cs)

/-- What follows the numbers is a suffix or nothing. -/
def isSuffix : List Char → Bool
  | [] => true
  | c :: cs => (c == '-' || c == '+') && cs.all isSuffixChar

/-- One line feed at the end is no part of a version text. -/
def dropLineFeed (cs : List Char) : List Char :=
  if cs.getLast? = some '\n' then cs.dropLast else cs

/-- The digits of the three components of a version text, none for a missing one. -/
def digits? (text : List Char) : Option (List Char × List Char × List Char) :=
  let cs := dropLineFeed text
  let major := cs.takeWhile isDecimal
  let (minor, rest) := component (cs.dropWhile isDecimal)
  let (patch, rest) := component rest
  if major.isEmpty || !isSuffix rest then none else some (major, minor, patch)

/-- The version that a text spells. -/
def readChars (text : List Char) : Except Overlong (Option Version) :=
  match digits? text with
  | none => .ok none
  | some (major, minor, patch) => do
    let major ← readNat major
    let minor ← readNat minor
    let patch ← readNat patch
    .ok (some { major, minor, patch })

def read (text : String) : Except Overlong (Option Version) := readChars text.toList

/-- A version takes the place of the current one: it is higher, or the current text spells none. -/
def isNewer (candidate current : String) : Except Overlong Bool := do
  let candidate ← read candidate
  let current ← read current
  match candidate, current with
  | none, _ => .ok false
  | some _, none => .ok true
  | some a, some b => .ok (lt b a)

end Version

end ServiceContracts.Dependency
