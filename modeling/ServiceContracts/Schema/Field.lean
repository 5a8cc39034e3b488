import ServiceContracts.Document.Shown
import ServiceContracts.Schema.Checked
import ServiceContracts.Schema.Count
import ServiceContracts.Text.Utf8

/-!
# Fields

Checks of single parts of a document, and of the fields of a map. A field may go by two names; the
first one wins if both are there, and a fault lies behind the name that was found.
-/

namespace ServiceContracts.Schema
open Document Number

/-! ## Single parts -/

/-- A text, or bytes that are one. -/
def text (p : Part) : Checked String :=
  match p.head with
  | .text s => .ok s
  | .bytes content =>
    match Text.Utf8.decode content with
    | .ok cs => .ok (String.ofList (Text.ofChars cs))
    | .error _ =>
      .fail "Input should be a valid string, unable to parse raw data as a unicode string"
  | _ => .fail "Input should be a valid string"

/-- A text, or null. -/
def optionalText (p : Part) : Checked (Option String) :=
  match p.head with
  | .null => .ok none
  | _ => (text p).map some

/-- A list with items of one kind. -/
def list {α : Type} (check : Part → Checked α) (p : Part) : Checked (List α) :=
  match p.items? with
  | some items => .each check items
  | none => .fail "Input should be a valid list"

/-- Names in a sentence: `'a', 'b' or 'c'`. -/
def alternatives : List String → String
  | [] => ""
  | [a] => "'" ++ a ++ "'"
  | [a, b] => "'" ++ a ++ "' or '" ++ b ++ "'"
  | a :: names => "'" ++ a ++ "', " ++ alternatives names

/-- The text that a part is. -/
def textOf? (p : Part) : Option String :=
  match p.head with
  | .text s => some s
  | _ => none

/-- One of some named choices. -/
def choice {α : Type} (name : α → String) (choices : List α) (p : Part) : Checked α :=
  match (textOf? p).bind fun s => choices.find? fun a => name a == s with
  | some a => .ok a
  | none => .fail ("Input should be " ++ alternatives (choices.map name))

/-- An integer, or what stands for one. A number has to be less than `2 ^ 63` in size. -/
def integer (p : Part) : Checked Int :=
  match p.head with
  | .int i => .ok i
  | .bool b => .ok (if b then 1 else 0)
  | .float x =>
    if !x.isFinite then .fail "Input should be a finite number"
    else match x.integral? with
      | some i =>
        if i.natAbs < Nat.pow 2 63 then .ok i else .fail Count.Misspelling.overlong.message
      | none =>
        .fail "Input should be a valid integer, got a number with a fractional part"
  | .text s =>
    match Count.read s.toList with
    | .ok i => .ok i
    | .error m => .fail m.message
  | _ => .fail "Input should be a valid integer"

/-! ## Fields of a map -/

/-- The entries of a map. -/
abbrev Entries := List (Value × Part)

/-- The first of some names that a map has, with what stands there. -/
def lookup? (entries : Entries) (names : List String) : Option (String × Part) :=
  names.findSome? fun name => (Value.get? entries name).map fun p => (name, p)

/-- A field that has to be there. -/
def required {α : Type} (entries : Entries) (names : List String) (check : Part → Checked α) :
    Checked α :=
  match lookup? entries names with
  | some (name, p) => (check p).within name
  | none => (Checked.fail "Field required").within (names.headD "")

/-- A field that has a default. -/
def defaulted {α : Type} (entries : Entries) (names : List String) (check : Part → Checked α)
    (default : α) : Checked α :=
  match lookup? entries names with
  | some (name, p) => (check p).within name
  | none => .ok default

/-- A map that is checked field by field; `model` names it in the complaint about anything else. -/
def model {α : Type} (name : String) (check : Entries → Checked α) (p : Part) : Checked α :=
  match p.entries? with
  | some entries => check entries
  | none => .fail ("Input should be a valid dictionary or instance of " ++ name)

/-- A text with three replacement characters for each code point that cannot be encoded. -/
def replaced (s : String) : String :=
  String.ofList ((Text.codes s.toList).flatMap fun n =>
    if Text.isSurrogate n then ['\uFFFD', '\uFFFD', '\uFFFD'] else Text.ofCode n)

/-- A map whose field `key` tells which of some named checks applies. -/
def tagged {α : Type} (key : String) (cases : List (String × (Entries → Checked α))) (p : Part) :
    Checked α :=
  match p.entries? with
  | some entries =>
    match Value.get? entries key with
    | none => .fail ("Unable to extract tag using discriminator '" ++ key ++ "'")
    | some tag =>
      match (textOf? tag).bind fun name => (cases.lookup name).map fun check => (name, check) with
      | some (name, check) => (check entries).within name
      | none =>
        .fail ("Input tag '" ++ replaced tag.plain ++ "' found using '" ++ key ++
          "' does not match any of the expected tags: " ++
          ", ".intercalate (cases.map fun (name, _) => "'" ++ name ++ "'"))
  | none => .fail "Input should be a valid dictionary or object to extract fields from"

end ServiceContracts.Schema
