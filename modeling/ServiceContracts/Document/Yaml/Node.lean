import ServiceContracts.Document.Yaml.Tag
import ServiceContracts.Document.Yaml.Tokens

/-!
# The nodes of a YAML document

A document is one node: a scalar, a sequence or a mapping, each with the tag that tells its kind.
All nodes stand in a table and name each other by their places there, so a node may be used several
times, even inside of itself. An anchor gives a node a name, once, and an alias uses it again.

* `Parse` : the text that is left, and the nodes so far;
* `Parse.node` : the place of the node that comes next;
* `Nodes.ofText` : the nodes of a text, and the place of the only document, if there is one.
-/

namespace ServiceContracts.Document.Yaml

/-- A part of a document; other parts are named by their places. -/
inductive Node where
  | scalar (tag : Tag) (text : List Char)
  | sequence (tag : Tag) (items : List Nat)
  | mapping (tag : Tag) (entries : List (Nat × Nat))
deriving DecidableEq, Repr

/-- The kind of a node. -/
def Node.tag : Node → Tag
  | scalar tag _ | sequence tag _ | mapping tag _ => tag

/-- The nodes of a document. -/
abbrev Nodes := Array Node

/-- Where a node may stand. -/
inductive Place where
  /-- Inside brackets. -/
  | flow
  /-- In a block. -/
  | block
  /-- As a key or a value of a block, where a sequence needs no indentation. -/
  | blockOrDashes
deriving DecidableEq

/-- The state of parsing. -/
structure Progress where
  lexer : Lexer
  nodes : Nodes := #[]
  /-- The place of the node of every anchor. -/
  anchors : List (List Char × Nat) := []
  handles : List (List Char × List Char) := []

abbrev Parse := StateT Progress (Except Fault)

/-- How many nodes may be nested. -/
def depthLimit : Nat := 488

namespace Parse

/-! ## Tokens -/

/-- The next token. -/
def peek : Parse (Option Token) := do
  let p ← get
  let lexer ← p.lexer.ready
  set { p with lexer }
  return lexer.tokens.head?

/-- Go on behind the next token. -/
def skip : Parse Unit := modify fun p => { p with lexer := p.lexer.take }

/-- Refuse the document. -/
def refuse {α : Type} : Parse α := throw .malformed

/-- The next token is this one; if so, go on behind it. -/
def skipIf (t : Token) : Parse Bool := do
  if (← peek) = some t then
    skip
    return true
  else
    return false

/-- The next token has to be this one. -/
def expect (t : Token) : Parse Unit := do unless ← skipIf t do refuse

/-- The next token is one of these. -/
def isAt (ts : List Token) : Parse Bool := do
  match ← peek with
  | some t => return ts.contains t
  | none => return false

/-! ## Anchors and tags -/

/-- An anchor and a tag in front of a node, in either order. -/
def properties : Parse (Option (List Char) × Option (Option (List Char) × List Char)) := do
  match ← peek with
  | some (.anchor name) =>
    skip
    match ← peek with
    | some (.tag handle suffix) =>
      skip
      return (some name, some (handle, suffix))
    | _ => return (some name, none)
  | some (.tag handle suffix) =>
    skip
    match ← peek with
    | some (.anchor name) =>
      skip
      return (some name, some (handle, suffix))
    | _ => return (none, some (handle, suffix))
  | _ => return (none, none)

/-- The full tag for a handle and a suffix. -/
def fullTag (handle : Option (List Char)) (suffix : List Char) : Parse (List Char) := do
  match handle with
  | none => return suffix
  | some handle =>
    match (← get).handles.lookup handle with
    | some expansion => return expansion ++ suffix
    | none => refuse

/-- An anchor has to be new. -/
def checkAnchor (name : Option (List Char)) : Parse Unit := do
  match name with
  | none => pure ()
  | some name => if ((← get).anchors.lookup name).isSome then refuse

/-! ## Nodes -/

/-- The place of a new node. -/
def add (n : Node) : Parse Nat := do
  let p ← get
  set { p with nodes := p.nodes.push n }
  return p.nodes.size

/-- The place of a new node with an anchor. -/
def addNamed (anchor : Option (List Char)) (n : Node) : Parse Nat := do
  let place ← add n
  match anchor with
  | none => pure ()
  | some name => modify fun p => { p with anchors := (name, place) :: p.anchors }
  return place

/-- The content of a node that was added without it. -/
def complete (place : Nat) (n : Node) : Parse Nat := do
  modify fun p => { p with nodes := p.nodes.setIfInBounds place n }
  return place

/-- A node where nothing is written. -/
def addEmpty : Parse Nat := add (.scalar (Tag.ofPlain []) [])

mutual
/-- The place of the node that comes next; `depth` more nodes may be nested in it, and `fuel` bounds
the number of steps. -/
def node (fuel depth : Nat) (place : Place) : Parse Nat := do
  match fuel, depth with
  | 0, _ => refuse
  | _, 0 => throw .tooDeep
  | fuel + 1, depth + 1 =>
    match ← peek with
    | some (.alias name) =>
      skip
      match (← get).anchors.lookup name with
      | some found => return found
      | none => refuse
    | _ =>
      let (anchor, written) ← properties
      let tag ← written.mapM fun (handle, suffix) => fullTag handle suffix
      let tag := tag.filter (· != ['!'])
      let bare := written.isSome && tag.isNone
      let next ← peek
      let sequence (items : Parse (List Nat)) : Parse Nat := do
        let tag := Tag.ofNameOr tag .list
        let here ← addNamed anchor (.sequence tag [])
        complete here (.sequence tag (← items))
      let mapping (entries : Parse (List (Nat × Nat))) : Parse Nat := do
        let tag := Tag.ofNameOr tag .map
        let here ← addNamed anchor (.mapping tag [])
        complete here (.mapping tag (← entries))
      match next with
      | some (.scalar isPlain text) =>
        skip
        checkAnchor anchor
        let resolved := match tag with
          | some tag => Tag.ofName tag
          | none => if isPlain && written.isNone || bare then Tag.ofPlain text else .text
        addNamed anchor (.scalar resolved text)
      | some .flowSequence =>
        checkAnchor anchor
        skip
        sequence (flowItems fuel depth true)
      | some .flowMapping =>
        checkAnchor anchor
        skip
        mapping (flowEntries fuel depth true)
      | some .blockSequence =>
        if place = .flow then refuse
        else
          checkAnchor anchor
          skip
          sequence (blockItems fuel depth)
      | some .blockMapping =>
        if place = .flow then refuse
        else
          checkAnchor anchor
          skip
          mapping (blockEntries fuel depth)
      | _ =>
        if place = .blockOrDashes && next = some .blockEntry then
          checkAnchor anchor
          sequence (dashedItems fuel depth)
        else if anchor.isSome || written.isSome then
          checkAnchor anchor
          let resolved := match tag with
            | some tag => Tag.ofName tag
            | none => Tag.ofPlain []
          addNamed anchor (.scalar resolved [])
        else refuse

/-- The items of a block sequence, up to the end of the block. -/
def blockItems (fuel depth : Nat) : Parse (List Nat) := do
  match fuel with
  | 0 => refuse
  | fuel + 1 =>
    if ← skipIf .blockEntry then
      let item ←
        if ← isAt [.blockEntry, .blockEnd] then addEmpty else node fuel depth .block
      return item :: (← blockItems fuel depth)
    else
      expect .blockEnd
      return []

/-- The items of a sequence without a block of its own. -/
def dashedItems (fuel depth : Nat) : Parse (List Nat) := do
  match fuel with
  | 0 => refuse
  | fuel + 1 =>
    if ← skipIf .blockEntry then
      let item ←
        if ← isAt [.blockEntry, .key, .value, .blockEnd] then addEmpty
        else node fuel depth .block
      return item :: (← dashedItems fuel depth)
    else return []

/-- The entries of a block mapping, up to the end of the block. -/
def blockEntries (fuel depth : Nat) : Parse (List (Nat × Nat)) := do
  match fuel with
  | 0 => refuse
  | fuel + 1 =>
    let part : Parse Nat := do
      if ← isAt [.key, .value, .blockEnd] then addEmpty else node fuel depth .blockOrDashes
    if ← skipIf .key then
      let key ← part
      let value ← if ← skipIf .value then part else addEmpty
      return (key, value) :: (← blockEntries fuel depth)
    else
      expect .blockEnd
      return []

/-- An entry behind its key mark, up to the mark behind it or the closing one. -/
def flowEntry (fuel depth : Nat) (closing : Token) : Parse (Nat × Nat) := do
  match fuel with
  | 0 => refuse
  | fuel + 1 =>
    let key ←
      if ← isAt [.value, .flowEntry, closing] then addEmpty else node fuel depth .flow
    let value ←
      if ← skipIf .value then
        if ← isAt [.flowEntry, closing] then addEmpty else node fuel depth .flow
      else addEmpty
    return (key, value)

/-- The items of a sequence in brackets, up to the closing one. -/
def flowItems (fuel depth : Nat) (isFirst : Bool) : Parse (List Nat) := do
  match fuel with
  | 0 => refuse
  | fuel + 1 =>
    if ← skipIf .flowSequenceEnd then return []
    else
      unless isFirst do expect .flowEntry
      if ← skipIf .key then
        match depth with
        | 0 => throw .tooDeep
        | depth' + 1 =>
          let here ← add (.mapping .map [])
          let entry ← flowEntry fuel depth' .flowSequenceEnd
          let item ← complete here (.mapping .map [entry])
          return item :: (← flowItems fuel depth false)
      else if ← skipIf .flowSequenceEnd then return []
      else
        let item ← node fuel depth .flow
        return item :: (← flowItems fuel depth false)

/-- The entries of a mapping in braces, up to the closing one. -/
def flowEntries (fuel depth : Nat) (isFirst : Bool) : Parse (List (Nat × Nat)) := do
  match fuel with
  | 0 => refuse
  | fuel + 1 =>
    if ← skipIf .flowMappingEnd then return []
    else
      unless isFirst do expect .flowEntry
      if ← skipIf .key then
        let entry ← flowEntry fuel depth .flowMappingEnd
        return entry :: (← flowEntries fuel depth false)
      else if ← skipIf .flowMappingEnd then return []
      else
        let key ← node fuel depth .flow
        let value ← addEmpty
        return (key, value) :: (← flowEntries fuel depth false)
end

/-! ## Documents -/

/-- The handles that are known without directives. -/
def usualHandles : List (List Char × List Char) :=
  [(['!'], ['!']), (['!', '!'], "tag:yaml.org,2002:".toList)]

/-- The directives in front of a document: one version at most, and each handle once. -/
def directives (fuel : Nat) (versioned : Bool) (handles : List (List Char × List Char)) :
    Parse (List (List Char × List Char)) := do
  match fuel with
  | 0 => refuse
  | fuel + 1 =>
    match ← peek with
    | some (.directive (.version major)) =>
      if versioned || major ≠ 1 then refuse
      else
        skip
        directives fuel true handles
    | some (.directive (.handle name expansion)) =>
      if (handles.lookup name).isSome then refuse
      else
        skip
        directives fuel versioned ((name, expansion) :: handles)
    | some (.directive .other) =>
      skip
      directives fuel versioned handles
    | _ => return handles

/-- The directives and the mark in front of a document. -/
def header (fuel : Nat) : Parse Unit := do
  let handles ← directives fuel false []
  modify fun p => { p with handles := handles ++ usualHandles }
  expect .documentStart

/-- Marks of the end of a document skipped. -/
def skipEnds (fuel : Nat) : Parse Unit := do
  match fuel with
  | 0 => refuse
  | fuel + 1 => if ← skipIf .documentEnd then skipEnds fuel

/-- Nothing may follow the document. What does follow is read as far as the mark of the next
document. -/
def finish (fuel : Nat) : Parse Unit := do
  skipEnds fuel
  if (← peek).isSome then
    header fuel
    refuse

/-- The place of the only document, if there is one; `fuel` bounds the number of steps. -/
def document (fuel : Nat) : Parse (Option Nat) := do
  match ← peek with
  | none => return none
  | some (.directive _) | some .documentStart =>
    header fuel
    let root ← match ← peek with
      | none | some (.directive _) | some .documentStart | some .documentEnd => addEmpty
      | some _ => node fuel depthLimit .block
    finish fuel
    return some root
  | some _ =>
    modify fun p => { p with handles := usualHandles }
    let root ← node fuel depthLimit .block
    finish fuel
    return some root

end Parse

/-- The nodes of a text, and the place of the only document, if there is one. Every step of parsing
takes a token or goes on to one, and there are at most four tokens for a character. -/
def Nodes.ofText (cs : List Char) : Except Fault (Nodes × Option Nat) := do
  let lexer ← Lexer.ofChars cs
  let (root, p) ← (Parse.document (16 * cs.length + 16)).run { lexer }
  .ok (p.nodes, root)

end ServiceContracts.Document.Yaml
