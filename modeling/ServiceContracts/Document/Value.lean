import ServiceContracts.Document.Calendar
import ServiceContracts.Number.Binary64

/-!
# Document values

What a document holds, whatever its notation. A map keeps its entries in order of insertion; putting
an entry under a key that is there keeps the first key in its place and takes the last value. Keys
are compared by value, so the integer 1, the number 1.0 and `true` are one key.

A document may use a list or a map several times, and even inside of itself. Such a value stands in
a cell, and every use of it names the cell.

* `Value` : a value, or the cell where it is;
* `Part` : a value with the cells of its document;
* `Part.head` : the value of a part, which is no cell.
-/

namespace ServiceContracts.Document
open Number

inductive Value where
  | null
  | bool (b : Bool)
  | int (i : Int)
  | float (x : Binary64)
  | text (s : String)
  | bytes (content : List UInt8)
  | date (d : Date)
  | moment (t : Moment)
  | list (items : List Value)
  | map (entries : List (Value × Value))
  | set (items : List Value)
  | pair (first second : Value)
  /-- What the cell of a number holds. -/
  | cell (n : Nat)

namespace Value

/-- A number that equals an integer, as that integer. -/
def integer? : Value → Option Int
  | bool b => some (if b then 1 else 0)
  | int i => some i
  | float x => x.integral?
  | _ => none

/-- Two keys are the same. A key in a cell is the same as itself only. -/
def sameKey (a b : Value) : Bool :=
  match a.integer?, b.integer? with
  | some i, some j => i == j
  | none, none =>
    match a, b with
    | null, null => true
    | float x, float y => x == y
    | text s, text t => s == t
    | bytes s, bytes t => s == t
    | date d, date e => d == e
    | moment t, moment u => if t.universal?.isSome then t.universal? == u.universal? else t == u
    | cell m, cell n => m == n
    | _, _ => false
  | _, _ => false

/-- An entry put into a map. -/
def put (entries : List (Value × Value)) (key value : Value) : List (Value × Value) :=
  match entries with
  | [] => [(key, value)]
  | (k, v) :: entries =>
    if k.sameKey key then (k, value) :: entries else (k, v) :: put entries key value

/-- The map with entries put in one after another. -/
def ofEntries (entries : List (Value × Value)) : Value :=
  map (entries.foldl (fun acc entry => put acc entry.1 entry.2) [])

/-- What stands under a text key. -/
def get? {α : Type} (entries : List (Value × α)) (name : String) : Option α :=
  (entries.find? fun entry => entry.1.sameKey (text name)).map (·.2)

end Value

structure Part where
  cells : Array Value := #[]
  value : Value

namespace Part

/-- A value without cells. -/
def ofValue (value : Value) : Part := { value }

/-- A value inside of a part. -/
def child (p : Part) (value : Value) : Part := { p with value }

def head (p : Part) : Value :=
  match p.value with
  | .cell n => p.cells.getD n .null
  | v => v

/-- The items of a list, a set or a pair. -/
def items? (p : Part) : Option (List Part) :=
  match p.head with
  | .list items | .set items => some (items.map p.child)
  | .pair first second => some [p.child first, p.child second]
  | _ => none

/-- The entries of a map. -/
def entries? (p : Part) : Option (List (Value × Part)) :=
  match p.head with
  | .map entries => some (entries.map fun (key, value) => (key, p.child value))
  | _ => none

end Part

end ServiceContracts.Document
