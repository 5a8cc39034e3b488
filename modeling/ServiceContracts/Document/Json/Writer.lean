import ServiceContracts.Document.Value
import ServiceContracts.Number.Integer
import ServiceContracts.Text.Quoted

/-!
# Writing JSON

A `Tree` is what a report writes: texts, counts, lists and objects whose fields stay in order. With
an indentation every item and field has a line of its own, deeper ones further to the right; without
one the text has neither spaces nor line breaks. Empty lists and objects stay on their line.

* `escaped` : a character inside a string;
* `Tree.write` : the text of a tree;
* `Tree.value` : the document value that it stands for.
-/

namespace ServiceContracts.Document.Json
open Number

/-- What a report writes. -/
inductive Tree where
  | null
  | count (n : Int)
  | text (s : String)
  | list (items : List Tree)
  | object (fields : List (String × Tree))

/-- A character inside a string: quotes, backslashes and controls are escaped, all else is not. -/
def escaped (c : Char) : List Char :=
  if c = '"' then ['\\', '"']
  else if c = '\\' then ['\\', '\\']
  else if c = '\x08' then ['\\', 'b']
  else if c = '\t' then ['\\', 't']
  else if c = '\n' then ['\\', 'n']
  else if c = '\x0c' then ['\\', 'f']
  else if c = '\r' then ['\\', 'r']
  else if c.toNat < 0x20 then '\\' :: 'u' :: Text.hex 4 c.toNat
  else [c]

/-- A text between quotes. -/
def quote (s : String) : List Char := '"' :: s.toList.flatMap escaped ++ ['"']

/-- The start of a new line at some depth; nothing without an indentation. -/
def lineStart (indent : Option Nat) (depth : Nat) : List Char :=
  match indent with
  | none => []
  | some width => '\n' :: List.replicate (width * depth) ' '

/-- The mark between a field's name and its value. -/
def fieldMark (indent : Option Nat) : List Char := if indent.isSome then [':', ' '] else [':']

namespace Tree

mutual
/-- The text of a tree at some depth. -/
def writeAt (indent : Option Nat) (depth : Nat) : Tree → List Char
  | null => "null".toList
  | count n => intText n
  | text s => quote s
  | list [] => ['[', ']']
  | list (item :: items) =>
    '[' :: lineStart indent (depth + 1) ++ writeAt indent (depth + 1) item ++
      writeItems indent (depth + 1) items ++ lineStart indent depth ++ [']']
  | object [] => ['{', '}']
  | object ((name, value) :: fields) =>
    '{' :: lineStart indent (depth + 1) ++ quote name ++ fieldMark indent ++
      writeAt indent (depth + 1) value ++ writeFields indent (depth + 1) fields ++
      lineStart indent depth ++ ['}']

/-- The items behind the first one, each after a comma. -/
def writeItems (indent : Option Nat) (depth : Nat) : List Tree → List Char
  | [] => []
  | item :: items =>
    ',' :: lineStart indent depth ++ writeAt indent depth item ++ writeItems indent depth items

/-- The fields behind the first one, each after a comma. -/
def writeFields (indent : Option Nat) (depth : Nat) : List (String × Tree) → List Char
  | [] => []
  | (name, value) :: fields =>
    ',' :: lineStart indent depth ++ quote name ++ fieldMark indent ++
      writeAt indent depth value ++ writeFields indent depth fields
end

def write (indent : Option Nat) (t : Tree) : String := String.ofList (t.writeAt indent 0)

mutual
def value : Tree → Value
  | null => .null
  | count n => .int n
  | text s => .text s
  | list items => .list (values items)
  | object fields => .map (entries fields)

/-- The document values of items. -/
def values : List Tree → List Value
  | [] => []
  | item :: items => item.value :: values items

/-- The document entries of fields. -/
def entries : List (String × Tree) → List (Value × Value)
  | [] => []
  | (name, field) :: fields => (.text name, field.value) :: entries fields
end

theorem values_eq_map (items : List Tree) : values items = items.map value := by
  induction items with
  | nil => rfl
  | cons item items ih => rw [values, ih, List.map_cons]

theorem entries_eq_map (fields : List (String × Tree)) :
    entries fields = fields.map fun field => (.text field.1, field.2.value) := by
  induction fields with
  | nil => rfl
  | cons field fields ih => rw [entries, ih, List.map_cons]

end Tree

end ServiceContracts.Document.Json
