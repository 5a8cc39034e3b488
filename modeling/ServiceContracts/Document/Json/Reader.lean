import ServiceContracts.Document.Value
import ServiceContracts.Number.Spelling
import ServiceContracts.Text.CodePoint

/-!
# Reading JSON

The reader accepts JSON together with the constants `NaN`, `Infinity` and `-Infinity`. What follows
a value is handed back, and a complaint comes with the text from which on it holds, so that its line
can be told. Lists and maps may be nested up to `depthLimit` times.

* `Complaint`, `Fault` : why a text is refused;
* `readValue` : the value at the start of a text; the first argument bounds the number of nested
  steps, of which a text has at most two for a character;
* `read` : the value of a whole text.
-/

namespace ServiceContracts.Document.Json
open Number Text

inductive Complaint where
  | value
  | propertyName
  | colon
  | comma
  | extraData
  | unterminated
  | control
  | escape
  | unicodeEscape
  | byteOrderMark
deriving DecidableEq, Repr

/-- The wording of a complaint. -/
def Complaint.message : Complaint → String
  | value => "Expecting value"
  | propertyName => "Expecting property name enclosed in double quotes"
  | colon => "Expecting ':' delimiter"
  | comma => "Expecting ',' delimiter"
  | extraData => "Extra data"
  | unterminated => "Unterminated string starting at"
  | control => "Invalid control character at"
  | escape => "Invalid \\escape"
  | unicodeEscape => "Invalid \\uXXXX escape"
  | byteOrderMark => "Unexpected UTF-8 BOM (decode using utf-8-sig)"

/-- What is nested in a text. -/
inductive Nest where
  | list
  | map
deriving DecidableEq, Repr

/-- The wording of the fault that lists or maps are nested too deeply. -/
def Nest.message (n : Nest) : String :=
  "maximum recursion depth exceeded while decoding a JSON " ++
    (match n with
    | list => "array"
    | map => "object") ++ " from a unicode string"

/-- Why reading stops: a complaint with the text from which on it holds, an overlong integer, or
what is nested too deeply. -/
inductive Stop where
  | complaint (what : Complaint) (rest : List Char)
  | overlong (o : Overlong)
  | tooDeep (n : Nest)

inductive Fault where
  | complaint (what : Complaint) (line : Nat)
  | overlong (o : Overlong)
  | tooDeep (n : Nest)
deriving DecidableEq, Repr

/-- How many lists and maps may be nested. -/
def depthLimit : Nat := 990

/-- A character that may stand between tokens. -/
def isSpace (c : Char) : Bool := c == ' ' || c == '\t' || c == '\n' || c == '\r'

/-- A text without the spaces at its start. -/
def skipSpaces (cs : List Char) : List Char := cs.dropWhile isSpace

/-! ## Strings -/

/-- The number that four hexadecimal digits at the start spell. -/
def fourDigits? : List Char → Option Nat
  | a :: b :: c :: d :: _ => do
    let a ← hexValue? a
    let b ← hexValue? b
    let c ← hexValue? c
    let d ← hexValue? d
    some (((a * 16 + b) * 16 + c) * 16 + d)
  | _ => none

/-- What a short escape stands for. -/
def shortEscape? : Char → Option Char
  | '"' => some '"'
  | '\\' => some '\\'
  | '/' => some '/'
  | 'b' => some '\x08'
  | 'f' => some '\x0c'
  | 'n' => some '\n'
  | 'r' => some '\r'
  | 't' => some '\t'
  | _ => none

/-- A code unit that only makes a character together with the next one. -/
def isHigh (n : Nat) : Bool := 0xD800 ≤ n && n ≤ 0xDBFF

/-- A code unit that only makes a character together with the one before. -/
def isLow (n : Nat) : Bool := 0xDC00 ≤ n && n ≤ 0xDFFF

/-- The code unit escaped right after a high one, if the text goes on behind it; a second escape
with wrong digits is an error. -/
def secondUnit? (cs : List Char) : Except Unit (Option Nat) :=
  match cs with
  | '\\' :: 'u' :: digits =>
    if digits.length ≤ 4 then .ok none
    else match fourDigits? digits with
      | some n => .ok (some n)
      | none => .error ()
  | _ => .ok none

/-- The code point of an escape behind its `\u`, and the number of characters it takes there. -/
def unicodeEscape? (cs : List Char) : Option (Nat × Nat) :=
  if cs.length ≤ 4 then none
  else match fourDigits? cs with
    | none => none
    | some unit =>
      if isHigh unit then
        match secondUnit? (cs.drop 4) with
        | .error () => none
        | .ok none => some (unit, 4)
        | .ok (some second) =>
          if isLow second then some (0x10000 + (unit - 0xD800) * 0x400 + (second - 0xDC00), 10)
          else some (unit, 4)
      else some (unit, 4)

/-- The characters of a string up to its closing quote, behind the next `skip` characters;
`opening` is the text from its opening quote on. -/
def readString (opening : List Char) (skip : Nat) : List Char → Except Stop (List Char × List Char)
  | [] => .error (.complaint .unterminated opening)
  | c :: cs =>
    match skip with
    | skip + 1 => readString opening skip cs
    | 0 =>
      if c = '"' then .ok ([], cs)
      else if c = '\\' then
        match cs with
        | [] => .error (.complaint .unterminated opening)
        | e :: rest =>
          if e = 'u' then
            match unicodeEscape? rest with
            | none => .error (.complaint .unicodeEscape (c :: cs))
            | some (n, width) => do
              let (chars, rest) ← readString opening (width + 1) cs
              .ok (ofCode n ++ chars, rest)
          else
            match shortEscape? e with
            | none => .error (.complaint .escape (c :: cs))
            | some char => do
              let (chars, rest) ← readString opening 1 cs
              .ok (char :: chars, rest)
      else if c.toNat < 0x20 then .error (.complaint .control (c :: cs))
      else do
        let (chars, rest) ← readString opening 0 cs
        .ok (c :: chars, rest)

/-! ## Numbers -/

/-- The number at the start of a text, if there is one. -/
def readNumber? (cs : List Char) : Option (Except Overlong Value × List Char) :=
  let (negative, body) := match cs with
    | '-' :: body => (true, body)
    | _ => (false, cs)
  let (whole, rest) := match body with
    | '0' :: rest => (['0'], rest)
    | _ => digits body
  if whole.isEmpty then none
  else
    match fraction? rest, exponent? ((fraction? rest).elim rest (·.2)) with
    | none, none =>
      some ((readNat whole).map fun n => .int (if negative then -n else n), rest)
    | part, exponent =>
      let part' := part.elim [] (·.1)
      let rest := exponent.elim (part.elim rest (·.2)) (·.2)
      let scale := exponent.elim 0 (·.1) - part'.length
      some (.ok (.float (Binary64.ofDecimal negative (decimalValue (whole ++ part')) scale)),
        rest)

/-! ## Values -/

/-- The constants, each with its spelling. -/
def constants : List (List Char × Value) :=
  [("null".toList, .null), ("true".toList, .bool true), ("false".toList, .bool false),
    ("NaN".toList, .float .nan), ("Infinity".toList, .float (.infinite false)),
    ("-Infinity".toList, .float (.infinite true))]

/-- The constant at the start of a text, if there is one. -/
def constant? (cs : List Char) : Option (Value × List Char) :=
  constants.findSome? fun (word, v) =>
    if word.isPrefixOf cs then some (v, cs.drop word.length) else none

mutual
/-- The value at the start of a text, in which lists and maps may be nested `depth` times. -/
def readValue (fuel depth : Nat) (cs : List Char) : Except Stop (Value × List Char) :=
  match fuel with
  | 0 => .error (.complaint .value cs)
  | fuel + 1 =>
    match cs, depth with
    | '"' :: body, _ => do
      let (chars, rest) ← readString cs 0 body
      .ok (.text (String.ofList chars), rest)
    | '[' :: _, 0 => .error (.tooDeep .list)
    | '{' :: _, 0 => .error (.tooDeep .map)
    | '[' :: body, depth + 1 =>
      match skipSpaces body with
      | ']' :: rest => .ok (.list [], rest)
      | body => do
        let (items, rest) ← readItems fuel depth body
        .ok (.list items, rest)
    | '{' :: body, depth + 1 =>
      match skipSpaces body with
      | '}' :: rest => .ok (.map [], rest)
      | body => do
        let (entries, rest) ← readEntries fuel depth body
        .ok (.ofEntries entries, rest)
    | _, _ =>
      match constant? cs with
      | some found => .ok found
      | none =>
        match readNumber? cs with
        | some (.ok v, rest) => .ok (v, rest)
        | some (.error o, _) => .error (.overlong o)
        | none => .error (.complaint .value cs)

/-- The items of a list from the first one on, up to its closing bracket. -/
def readItems (fuel depth : Nat) (cs : List Char) : Except Stop (List Value × List Char) :=
  match fuel with
  | 0 => .error (.complaint .value cs)
  | fuel + 1 => do
    let (item, rest) ← readValue fuel depth cs
    match skipSpaces rest with
    | ']' :: rest => .ok ([item], rest)
    | ',' :: rest =>
      let (items, rest) ← readItems fuel depth (skipSpaces rest)
      .ok (item :: items, rest)
    | rest => .error (.complaint .comma rest)

/-- The entries of a map from the first one on, up to its closing brace. -/
def readEntries (fuel depth : Nat) (cs : List Char) :
    Except Stop (List (Value × Value) × List Char) :=
  match fuel with
  | 0 => .error (.complaint .propertyName cs)
  | fuel + 1 =>
    match cs with
    | '"' :: body => do
      let (chars, rest) ← readString cs 0 body
      match skipSpaces rest with
      | ':' :: rest =>
        let (value, rest) ← readValue fuel depth (skipSpaces rest)
        let entry := (Value.text (String.ofList chars), value)
        match skipSpaces rest with
        | '}' :: rest => .ok ([entry], rest)
        | ',' :: rest =>
          let (entries, rest) ← readEntries fuel depth (skipSpaces rest)
          .ok (entry :: entries, rest)
        | rest => .error (.complaint .comma rest)
      | rest => .error (.complaint .colon rest)
    | _ => .error (.complaint .propertyName cs)
end

/-- The value of a whole text, with spaces around it. -/
def readWhole (cs : List Char) : Except Stop Value :=
  if cs.head? = some '\uFEFF' then .error (.complaint .byteOrderMark cs)
  else do
    let (v, rest) ← readValue (2 * cs.length + 2) depthLimit (skipSpaces cs)
    match skipSpaces rest with
    | [] => .ok v
    | rest => .error (.complaint .extraData rest)

/-- The line on which the last part of a text starts. -/
def lineOf (cs rest : List Char) : Nat :=
  1 + (cs.take (cs.length - rest.length)).count '\n'

def read (text : String) : Except Fault Value :=
  let cs := text.toList
  match readWhole cs with
  | .ok v => .ok v
  | .error (.overlong o) => .error (.overlong o)
  | .error (.tooDeep n) => .error (.tooDeep n)
  | .error (.complaint what rest) => .error (.complaint what (lineOf cs rest))

end ServiceContracts.Document.Json
