import ServiceContracts.Document.Value
import ServiceContracts.Number.Shortest
import ServiceContracts.Text.Quoted

/-!
# How values are shown in messages

`Part.shown?` writes a value as part of a message: texts are quoted, lists stand in brackets and
maps in braces, and dots stand for a list or a map inside of itself. `Part.plain` is the same for a
value on its own, where a text is not quoted.
-/

namespace ServiceContracts.Document
open Number

/-- Bytes between quotes; those beyond printable ASCII are escaped. -/
def quotedBytes (content : List UInt8) : List Char :=
  let chars := content.map fun b => Char.ofNat b.toNat
  let quote := Text.quoteFor chars
  'b' :: quote :: chars.flatMap (fun c =>
    if c.toNat < 128 then Text.quotedChar quote c else Text.hexEscape c.toNat) ++ [quote]

/-- An offset as a constructor with its parts. -/
def shownOffset (minutes : Int) : List Char :=
  if minutes = 0 then "datetime.timezone.utc".toList
  else "datetime.timezone(".toList ++ shownSpan minutes ++ [')']

/-- A moment as a constructor with its parts; trailing zero seconds are left out. -/
def shownMoment (t : Moment) : List Char :=
  let clock := if t.micro ≠ 0 then [t.second, t.micro] else if t.second ≠ 0 then [t.second] else []
  let parts := [t.date.year, t.date.month, t.date.day, t.hour, t.minute] ++ clock
  constructed "datetime.datetime" (parts.map natText ++
    match t.offset with
    | none => []
    | some minutes => ["tzinfo=".toList ++ shownOffset minutes])

/-! ## Values -/

/-- Parts of a list or the like behind an opening mark and before a closing one. -/
def enclosed (opening closing : List Char) (parts : List (List Char)) : List Char :=
  opening ++ ", ".toList.intercalate parts ++ closing

/-- What is shown of a value inside of itself. -/
def ellipsis : Value → List Char
  | .list _ => "[...]".toList
  | .map _ => ['\x7b', '.', '.', '.', '\x7d']
  | .set _ => "set(...)".toList
  | _ => "(...)".toList

mutual
/-- A value as part of a message; `outer` are the cells around it, and `fuel` bounds their number.
An integer with too many digits cannot be shown. -/
def shownIn (cells : Array Value) (fuel : Nat) (outer : List Nat) : Value → Option (List Char)
  | .null => some "None".toList
  | .bool b => some (if b then "True" else "False").toList
  | .int i => if (natText i.natAbs).length > digitLimit then none else some (intText i)
  | .float x => some x.text.toList
  | .text s => some (Text.quoted s).toList
  | .bytes content => some (quotedBytes content)
  | .date d => some (constructed "datetime.date" ([d.year, d.month, d.day].map natText))
  | .moment t => some (shownMoment t)
  | .list items => (shownItems cells fuel outer items).map (enclosed ['['] [']'])
  | .map entries =>
    (shownEntries cells fuel outer entries).map (enclosed ['\x7b'] ['\x7d'])
  | .set [] => some "set()".toList
  | .set items => (shownItems cells fuel outer items).map (enclosed ['\x7b'] ['\x7d'])
  | .pair first second => do
    let left ← shownIn cells fuel outer first
    let right ← shownIn cells fuel outer second
    return enclosed ['('] [')'] [left, right]
  | .cell n =>
    match fuel with
    | 0 => some []
    | fuel + 1 =>
      let content := cells.getD n .null
      if n ∈ outer then some (ellipsis content) else shownIn cells fuel (n :: outer) content
termination_by v => (fuel, sizeOf v)

/-- The items of a list, each as part of a message. -/
def shownItems (cells : Array Value) (fuel : Nat) (outer : List Nat) :
    List Value → Option (List (List Char))
  | [] => some []
  | item :: items => do
    let first ← shownIn cells fuel outer item
    let others ← shownItems cells fuel outer items
    return first :: others
termination_by items => (fuel, sizeOf items)

/-- The entries of a map, each as part of a message. -/
def shownEntries (cells : Array Value) (fuel : Nat) (outer : List Nat) :
    List (Value × Value) → Option (List (List Char))
  | [] => some []
  | (key, value) :: entries => do
    let name ← shownIn cells fuel outer key
    let content ← shownIn cells fuel outer value
    let others ← shownEntries cells fuel outer entries
    return (name ++ ':' :: ' ' :: content) :: others
termination_by entries => (fuel, sizeOf entries)
end

namespace Part

/-- A part of a document as part of a message. -/
def shown? (p : Part) : Option (List Char) := shownIn p.cells (p.cells.size + 1) [] p.value

/-- What is shown in place of a value that cannot be shown. -/
def unprintable : Value → String
  | .int _ => "<unprintable int object>"
  | .list _ => "<unprintable list object>"
  | .map _ => "<unprintable dict object>"
  | .set _ => "<unprintable set object>"
  | _ => "<unprintable object>"

/-- A part of a document on its own: a text, a date and a moment are written as they are. -/
def plain (p : Part) : String :=
  match p.head with
  | .text s => s
  | .date d => String.ofList d.text
  | .moment t => String.ofList (t.text ' ')
  | v => (p.shown?.map String.ofList).getD (unprintable v)

end Part

end ServiceContracts.Document
