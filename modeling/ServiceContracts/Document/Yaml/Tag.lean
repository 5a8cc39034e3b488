import ServiceContracts.Document.Yaml.Moment
import ServiceContracts.Text.Case

/-!
# Kinds of YAML nodes

A tag tells the kind of a node. A scalar without one is a truth value, a number, null, a date or a
moment if it is spelled like one, and a text otherwise; one line break may follow the spelling.
Integers may be binary, octal, hexadecimal or sexagesimal, and numbers may hold underscores.

* `Tag.ofPlain` : the kind of a scalar without a tag;
* `Tag.ofName` : the kind that a tag names.
-/

namespace ServiceContracts.Document.Yaml
open Number Text

/-- The kind of a node. -/
inductive Tag where
  | null
  | bool
  | int
  | float
  | binary
  | moment
  | text
  | list
  | map
  | set
  | pairs
  /-- A key whose value is put in front of the other entries. -/
  | merge
  /-- A key whose value stands for the whole mapping. -/
  | default
  | unknown
deriving DecidableEq, Repr

/-! ## Spellings -/

/-- The truth values, in lower case. -/
def truths : List (String × Bool) :=
  [("yes", true), ("no", false), ("true", true), ("false", false), ("on", true), ("off", false)]

/-- A word in lower case, capitalised or in upper case. -/
def spellings (word : String) : List (List Char) :=
  let cs := word.toList
  [cs, (cs.take 1).map Char.toUpper ++ cs.drop 1, cs.map Char.toUpper]

/-- One of the spellings of a word. -/
def spells (word : String) (cs : List Char) : Bool := (spellings word).contains cs

/-- A truth value. -/
def isBool (cs : List Char) : Bool := truths.any fun t => spells t.1 cs

/-- Null: nothing, a tilde or the word. -/
def isNull (cs : List Char) : Bool := cs.isEmpty || cs == ['~'] || spells "null" cs

/-- A digit or an underscore. -/
def isLooseDigit (c : Char) : Bool := isDigit c || c == '_'

/-- A minute or a second: one or two digits below sixty. -/
def isSixtieth : List Char → Bool
  | [a] => isDigit a
  | [a, b] => '0' ≤ a && a ≤ '5' && isDigit b
  | _ => false

/-- Digits, the first one being a digit proper. -/
def isDigits : List Char → Bool
  | [] => false
  | c :: cs => isDigit c && cs.all isLooseDigit

/-- A number to base sixty behind its sign: at least two parts, of which the first satisfies `p`. -/
def isSexagesimal (p : List Char → Bool) (cs : List Char) : Bool :=
  match split ':' cs with
  | first :: part :: parts => p first && (part :: parts).all isSixtieth
  | _ => false

/-- Digits that do not start with a zero. -/
def isPositive (cs : List Char) : Bool := isDigits cs && cs.head? != some '0'

/-- An integer. -/
def isInt (cs : List Char) : Bool :=
  match afterSign cs with
  | ['0'] => true
  | '0' :: 'b' :: ds => !ds.isEmpty && ds.all fun c => c == '0' || c == '1' || c == '_'
  | '0' :: 'x' :: ds => !ds.isEmpty && ds.all fun c => (hexValue? c).isSome || c == '_'
  | '0' :: ds => ds.all fun c => ('0' ≤ c && c ≤ '7') || c == '_'
  | ds => isPositive ds || isSexagesimal isPositive ds

/-- An exponent with its sign, or nothing. -/
def isExponent : List Char → Bool
  | [] => true
  | e :: sign :: ds =>
    (e == 'e' || e == 'E') && (sign == '-' || sign == '+') && !ds.isEmpty && ds.all isDigit
  | _ => false

/-- Loose digits with an exponent behind them. -/
def isFraction (cs : List Char) : Bool := isExponent (cs.dropWhile isLooseDigit)

/-- A number with a point. -/
def isFloat (cs : List Char) : Bool :=
  let body := afterSign cs
  let whole := body.takeWhile (· != '.')
  match body.dropWhile (· != '.') with
  | '.' :: part =>
    if whole.isEmpty then
      spells "inf" part ||
        (body == cs &&
          (["nan".toList, "NaN".toList, "NAN".toList].contains part ||
            ((part.head?.any isDigit) && isFraction part)))
    else
      (isDigits whole && isFraction part) || (isSexagesimal isDigits whole && part.all isLooseDigit)
  | _ => false

/-! ## Kinds -/

namespace Tag

/-- The kind of a scalar that is spelled as nothing but the given characters. -/
def ofSpelling (cs : List Char) : Tag :=
  if isBool cs then bool
  else if isFloat cs then float
  else if isInt cs then int
  else if cs == ['<', '<'] then merge
  else if isNull cs then null
  else if isMoment cs then moment
  else if cs == ['='] then default
  else if cs == ['!'] || cs == ['&'] || cs == ['*'] then unknown
  else text

/-- The kind of a scalar without a tag. A text that starts with a line break is spelled like
nothing else. -/
def ofPlain (cs : List Char) : Tag :=
  if cs.head? = some '\n' then text else ofSpelling (withoutFinalBreak cs)

/-- The kinds that tags name. -/
def names : List (String × Tag) :=
  [("null", null), ("bool", bool), ("int", int), ("float", float), ("binary", binary),
    ("timestamp", moment), ("str", text), ("seq", list), ("map", map), ("set", set),
    ("omap", pairs), ("pairs", pairs), ("merge", merge), ("value", default)]

def ofName (name : List Char) : Tag :=
  match after? "tag:yaml.org,2002:".toList name with
  | some kind => (names.lookup (String.ofList kind)).getD unknown
  | none => unknown

/-- The kind that a full tag names, or another one without a tag. -/
def ofNameOr (name : Option (List Char)) (other : Tag) : Tag :=
  match name with
  | some name => ofName name
  | none => other

end Tag

end ServiceContracts.Document.Yaml
