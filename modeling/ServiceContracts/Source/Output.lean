import ServiceContracts.Source.Entry

/-!
# Places for output

A report is written to a path. Directories that are missing on the way are made first, so a pair of
dots leads back even from a directory that was not there.

* `Obstacle` : why nothing can be written;
* `destination` : the path without such detours, if a file can be written there.
-/

namespace ServiceContracts.Source
open Text

inductive Obstacle where
  /-- The system makes no directory or file there. -/
  | system (e : SystemError)
  /-- The path holds a null character. -/
  | embeddedNull
  /-- The path holds a surrogate that stands for no byte. -/
  | unencodable
deriving DecidableEq, Repr

namespace PathName

/-- The parts of a path without detours, the last one first, and one part more. -/
def follow (root : List Char) (trail : List (List Char)) (part : List Char) : List (List Char) :=
  if part ≠ ['.', '.'] then part :: trail
  else match trail with
    | [] => if root.isEmpty then [part] else []
    | last :: outer => if last = ['.', '.'] then part :: trail else outer

/-- The paths that lead to the parts of a path one after another, without detours. -/
def stations (path : String) : List String :=
  let root := root path.toList
  let parts := parts path.toList
  (List.range parts.length).map fun n =>
    ofParts root ((parts.take (n + 1)).foldl (follow root) []).reverse

end PathName

/-- The directories of a path made one after another, `trail` being the parts so far without
detours, the last one first; `isMissing` tells that one of them was not there. -/
def descend (files : String → Entry) (root : List Char) (trail : List (List Char))
    (isMissing : Bool) : List (List Char) → Except Obstacle (List (List Char))
  | [] => .ok trail
  | part :: parts =>
    let trail := PathName.follow root trail part
    match files (PathName.ofParts root trail.reverse) with
    | .directory => descend files root trail isMissing parts
    | .unreachable e =>
      if e = .noSuchFile then descend files root trail true parts else .error (.system e)
    | .file _ | .unopened _ | .unread _ =>
      .error (.system (if isMissing || parts.isEmpty then .fileExists else .notDirectory))
    | .embeddedNull => .error .embeddedNull
    | .unencodable => .error .unencodable

def destination (files : String → Entry) (path : String) : Except Obstacle String := do
  let root := PathName.root path.toList
  let parts := PathName.parts path.toList
  let outer := PathName.parent path
  if PathName.isUnencodable path.toList then .error .unencodable
  else if '\x00' ∈ path.toList then .error .embeddedNull
  else if PathName.byteCount outer.toList > PathName.pathLimit then .error (.system .nameTooLong)
  else
    let trail ← descend files root [] false parts.dropLast
    if PathName.byteCount path.toList > PathName.pathLimit then .error (.system .nameTooLong)
    else match parts.getLast? with
      | none => .error (.system .isDirectory)
      | some name =>
        if name = ['.', '.'] then .error (.system .isDirectory)
        else
          let place := PathName.ofParts root (name :: trail).reverse
          match files place with
          | .directory => .error (.system .isDirectory)
          | .unreachable e => if e = .noSuchFile then .ok place else .error (.system e)
          | .unopened e => .error (.system e)
          | _ => .ok place

end ServiceContracts.Source
