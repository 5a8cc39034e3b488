import ServiceContracts.Document.SetOrder
import ServiceContracts.Document.Yaml.Node
import ServiceContracts.Document.Yaml.Spelled

/-!
# Reading YAML

A document is a single node whose kinds all stand for document values. A scalar has its value at
once. A container first has a cell, and is filled after all those that were met before it, so a
node inside of itself is its own cell, and of two faults the one nearer to the root comes first.

When a mapping is filled, merge keys give way to the entries that they bring in, which come before
its own; lists and maps are no keys.

* `Build` : the nodes and the cells so far;
* `Build.construct` : the value of a node, perhaps a cell that is filled later;
* `Build.flatten` : a mapping without merge keys;
* `Build.fill` : the content of a cell;
* `read` : the value of a text, null if it holds no document.
-/

namespace ServiceContracts.Document.Yaml

/-- The state of building the values of nodes. -/
structure Work where
  nodes : Nodes
  /-- The number of entries of all mappings together. -/
  entryCount : Nat
  /-- The value of every node that has one. -/
  values : Array (Option Value)
  cells : Array Value := #[]
  /-- The containers in the order they were met, each with its cell. -/
  containers : Array (Nat × Nat) := #[]

abbrev Build := StateT Work (Except Fault)

namespace Build

/-- The node at a place. -/
def nodeAt (place : Nat) : Build Node := do
  match (← get).nodes[place]? with
  | some n => return n
  | none => throw .malformed

/-- Another node at a place. -/
def setNode (place : Nat) (n : Node) : Build Unit :=
  modify fun w => { w with nodes := w.nodes.setIfInBounds place n }

/-- A new cell with some content. -/
def addCell (content : Value) : Build Nat := do
  let w ← get
  set { w with cells := w.cells.push content }
  return w.cells.size

/-- What a cell holds. -/
def setCell (cell : Nat) (content : Value) : Build Unit :=
  modify fun w => { w with cells := w.cells.setIfInBounds cell content }

/-! ## Scalars -/

/-- The text of a node; that of a mapping is the text under its default key. -/
def textOf (fuel : Nat) (n : Node) : Build (List Char) := do
  match fuel, n with
  | 0, _ => throw .tooDeep
  | _, .scalar _ text => return text
  | _, .sequence .. => throw .malformed
  | fuel + 1, .mapping _ entries =>
    match ← entries.findM? fun entry => return (← nodeAt entry.1).tag == .default with
    | some (_, value) => textOf fuel (← nodeAt value)
    | none => throw .malformed

/-- The value of a node that is no container. -/
def scalar (tag : Tag) (n : Node) : Build Value := do
  let text ← textOf depthLimit n
  match tag with
  | .text => return .text (String.ofList text)
  | .null => return .null
  | .bool => return .bool (← boolOf text)
  | .int => return .int (← intOf text)
  | .float =>
    match ← floatOf text with
    | (.nan, false) => return .cell (← addCell (.float .nan))
    | (x, _) => return .float x
  | .binary => return .bytes (← bytesOf text)
  | .moment =>
    match n with
    | .scalar .. => momentOf text
    | _ => throw .momentOfMap
  | _ => throw .malformed

/-! ## Containers -/

/-- A container without content, if the kind is that of a container. -/
def empty? : Tag → Option Value
  | .list | .pairs => some (.list [])
  | .map => some (.map [])
  | .set => some (.set [])
  | _ => none

/-- The value of a node. That of a container is its cell, which is filled later. -/
def construct (place : Nat) : Build Value := do
  match ((← get).values[place]?).join with
  | some v => return v
  | none =>
    let n ← nodeAt place
    let v ← match empty? n.tag with
      | some container => do
        let cell ← addCell container
        modify fun w => { w with containers := w.containers.push (place, cell) }
        pure (.cell cell)
      | none =>
        if n.tag ∈ [.merge, .default, .unknown] then throw .malformed else scalar n.tag n
    modify fun w => { w with values := w.values.setIfInBounds place (some v) }
    return v

/-- The value can be a key: it is no container. -/
def isKey (v : Value) : Build Bool := do
  match Part.head { cells := (← get).cells, value := v } with
  | .list _ | .map _ | .set _ => return false
  | _ => return true

/-- The entries of a mapping in order, later ones under a key that is there replacing its value. -/
def entries (so : List (Value × Value)) : List (Nat × Nat) → Build (List (Value × Value))
  | [] => return so
  | (key, value) :: rest => do
    let k ← construct key
    if ← isKey k then
      let v ← construct value
      entries (Value.put so k v) rest
    else throw .malformed

/-- The values of mappings with one entry each, as pairs of a key and a value. -/
def pairs : List Nat → Build (List Value)
  | [] => return []
  | item :: items => do
    match ← nodeAt item with
    | .mapping _ [(key, value)] =>
      let k ← construct key
      let v ← construct value
      return .pair k v :: (← pairs items)
    | _ => throw .malformed

/-! ## Merge keys -/

/-- A key that would stand for its whole mapping becomes a text. -/
def plainKey (place : Nat) : Build Unit := do
  match ← nodeAt place with
  | .scalar .default text => setNode place (.scalar .text text)
  | .sequence .default items => setNode place (.sequence .text items)
  | .mapping .default entries => setNode place (.mapping .text entries)
  | _ => pure ()

/-- The entries in front of the first merge key, that key's source if there is one, and the entries
behind it. -/
def cutAtMerge : List (Nat × Nat) → Build (List (Nat × Nat) × Option (Nat × List (Nat × Nat)))
  | [] => return ([], none)
  | (key, value) :: rest => do
    if (← nodeAt key).tag = .merge then return ([], some (value, rest))
    else
      plainKey key
      let (before, found) ← cutAtMerge rest
      return ((key, value) :: before, found)

mutual
/-- The mapping at a place without its merge keys: one after another is dropped, and the entries
that they bring in are put in front at the end. `passed` entries need no further look, `merged` were
brought in so far, and `fuel` bounds the number of merge keys. -/
def flattenFrom (fuel : Nat) (place : Nat) (passed : Nat) (merged : List (Nat × Nat)) :
    Build Unit := do
  match fuel with
  | 0 => throw .tooDeep
  | fuel + 1 =>
    match ← nodeAt place with
    | .mapping tag entries =>
      let (before, found) ← cutAtMerge (entries.drop passed)
      let kept := entries.take passed ++ before
      match found with
      | none => setNode place (.mapping tag (merged ++ kept))
      | some (source, behind) =>
        setNode place (.mapping tag (kept ++ behind))
        let brought ← match ← nodeAt source with
          | .mapping .. => do
            flattenFrom fuel source 0 []
            entriesAt source
          | .sequence _ items => do
            let lists ← sources fuel items
            pure lists.reverse.flatten
          | .scalar .. => throw .malformed
        flattenFrom fuel place kept.length (merged ++ brought)
    | _ => pure ()

/-- The entries of several mappings, each of them without its merge keys. -/
def sources (fuel : Nat) : List Nat → Build (List (List (Nat × Nat)))
  | [] => return []
  | item :: items => do
    match ← nodeAt item with
    | .mapping .. =>
      flattenFrom fuel item 0 []
      let first ← entriesAt item
      return first :: (← sources fuel items)
    | _ => throw .malformed

/-- The entries of the mapping at a place. -/
def entriesAt (place : Nat) : Build (List (Nat × Nat)) := do
  match ← nodeAt place with
  | .mapping _ entries => return entries
  | _ => return []
end

/-- The mapping at a place without its merge keys. Every step but the last one of each mapping drops
a merge key, and none is ever brought in. -/
def flatten (place : Nat) : Build Unit := do flattenFrom ((← get).entryCount + 1) place 0 []

/-! ## Documents -/

def fill (place cell : Nat) : Build Unit := do
  match ← nodeAt place with
  | .sequence .list items => setCell cell (.list (← items.mapM construct))
  | .sequence .pairs items => setCell cell (.list (← pairs items))
  | .mapping .map _ =>
    flatten place
    setCell cell (.map (← entries [] (← entriesAt place)))
  | .mapping .set _ =>
    flatten place
    setCell cell (.set (SetOrder.listed ((← entries [] (← entriesAt place)).map (·.1))))
  | _ => throw .malformed

/-- The content of all cells from the `next` container on; `fuel` bounds their number. -/
def fillFrom (fuel next : Nat) : Build Unit := do
  match fuel with
  | 0 => pure ()
  | fuel + 1 =>
    match (← get).containers[next]? with
    | none => pure ()
    | some (place, cell) =>
      fill place cell
      fillFrom fuel (next + 1)

end Build

/-- The number of entries of all mappings together. -/
def Nodes.entryCount (nodes : Nodes) : Nat :=
  nodes.foldl (fun n node =>
    match node with
    | .mapping _ entries => n + entries.length
    | _ => n) 0

def read (cs : List Char) : Except Fault Part := do
  match ← Nodes.ofText cs with
  | (_, none) => .ok (.ofValue .null)
  | (nodes, some root) =>
    let build : Build Value := do
      let v ← Build.construct root
      Build.fillFrom (nodes.size + 1) 0
      return v
    let (value, w) ← build.run
      { nodes, entryCount := nodes.entryCount, values := Array.replicate nodes.size none }
    .ok { cells := w.cells, value }

end ServiceContracts.Document.Yaml
