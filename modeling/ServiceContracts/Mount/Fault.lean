import ServiceContracts.Text.Quoted

/-!
# Inconsistent mounts

Why the mount graph of a repository cannot be built: a mount does not name both its sides, or the
mounts form a cycle.
-/

namespace ServiceContracts.Mount

/-- Why a mount graph cannot be built. -/
inductive Fault where
  /-- A mount with a blank side, both sides as they were written. -/
  | unknownNode (repo parent child : String)
  /-- A cycle from `first` back to it, `last` being the node that mounts `first`. -/
  | cycle (repo first last : String) (path : List String)
deriving DecidableEq, Repr

namespace Fault

/-- A cycle; without a path it is the one of its two nodes. -/
def cycleBetween (repo first last : String) (path : List String) : Fault :=
  cycle repo first last (if path.isEmpty then [first, last, first] else path)

/-- The repository that cannot be built. -/
def repo : Fault → String
  | unknownNode repo _ _ => repo
  | cycle repo _ _ _ => repo

/-- The kind of the fault. -/
def kind : Fault → String
  | unknownNode .. => "unknown_node"
  | cycle .. => "cycle"

/-- The two nodes of the mount at fault. -/
def nodes : Fault → List String
  | unknownNode _ parent child => [parent, child]
  | cycle _ first last _ => [first, last]

/-- The fault in one sentence. -/
def message : Fault → String
  | unknownNode repo parent child =>
    "Mount in repository '" ++ repo ++ "' references an unknown node (parent=" ++
      Text.quoted parent ++ ", child=" ++ Text.quoted child ++ ")"
  | cycle repo _ _ path => "Mount cycle in repository '" ++ repo ++ "': " ++ " -> ".intercalate path

end Fault

end ServiceContracts.Mount
