import ServiceContracts.Text.CodePoint
import ServiceContracts.Text.Split

/-!
# Files

What a path leads to, and trees of files to look paths up in.

* `SystemError` : why the system does not follow a path, open a file or read it;
* `Entry` : what a path leads to;
* `PathName.normal` : a path without empty parts and single dots, as it is shown;
* `Tree.look` : what a path leads to, from the root of a tree.
-/

namespace ServiceContracts.Source
open Text

/-- An error of the system, with its number and its text. -/
structure SystemError where
  number : Nat
  text : String
deriving DecidableEq, Repr

namespace SystemError

/-- Nothing is there. -/
def noSuchFile : SystemError := { number := 2, text := "No such file or directory" }

/-- A permission is missing. -/
def denied : SystemError := { number := 13, text := "Permission denied" }

/-- Something is there already. -/
def fileExists : SystemError := { number := 17, text := "File exists" }

/-- A part of a path that has to be a directory is none. -/
def notDirectory : SystemError := { number := 20, text := "Not a directory" }

/-- There is a directory where a file has to be. -/
def isDirectory : SystemError := { number := 21, text := "Is a directory" }

/-- A path or a part of it has too many bytes. -/
def nameTooLong : SystemError := { number := 36, text := "File name too long" }

def message (e : SystemError) : String := "[Errno " ++ toString e.number ++ "] " ++ e.text

end SystemError

/-- What a path leads to. -/
inductive Entry where
  | file (content : List UInt8)
  | directory
  /-- The path cannot be followed to its end: nothing is there, a part of it is no directory or may
  not be searched, or the links on it run in a loop. -/
  | unreachable (e : SystemError)
  /-- Something is there, but the system does not open it, such as a file that may not be read. -/
  | unopened (e : SystemError)
  /-- A file that is opened, but cannot be read to its end. -/
  | unread (e : SystemError)
  /-- The path holds a null character. -/
  | embeddedNull
  /-- The path holds a surrogate that stands for no byte. -/
  | unencodable
deriving DecidableEq, Repr

namespace PathName

/-- A byte of a path that is no part of a text: it comes as the surrogate `0xDC00` above it. -/
def isByte (n : Nat) : Bool := 0xDC80 ≤ n && n ≤ 0xDCFF

/-- The path cannot be handed to the system. -/
def isUnencodable (path : List Char) : Bool :=
  (codes path).any fun n => isSurrogate n && !isByte n

/-- The number of bytes of a code point. -/
def byteWidth (n : Nat) : Nat := if isByte n then 1 else (Char.ofNat n).utf8Size

/-- The number of bytes of a path, or of a part of it. -/
def byteCount (path : List Char) : Nat :=
  (codes path).foldl (fun count n => count + byteWidth n) 0

/-- The greatest number of bytes of a part of a path. -/
def nameLimit : Nat := 255

/-- The greatest number of bytes of a path. -/
def pathLimit : Nat := 4095

/-- The slashes that a path starts with: two of them are kept, any other number is one. -/
def root (path : List Char) : List Char :=
  match (path.takeWhile (· == '/')).length with
  | 0 => []
  | 2 => ['/', '/']
  | _ => ['/']

/-- The parts of a path, without empty ones and single dots. -/
def parts (path : List Char) : List (List Char) :=
  (split '/' path).filter fun part => !part.isEmpty && part != ['.']

/-- A path with these parts; one without any is a dot. -/
def ofParts (root : List Char) (parts : List (List Char)) : String :=
  let path := root ++ ['/'].intercalate parts
  if path.isEmpty then "." else String.ofList path

def normal (path : String) : String := ofParts (root path.toList) (parts path.toList)

/-- The directory that a path lies in; a root lies in itself. -/
def parent (path : String) : String := ofParts (root path.toList) (parts path.toList).dropLast

end PathName

/-! ## Trees -/

/-- A tree of files. -/
inductive Tree where
  | file (content : List UInt8)
  | directory (children : List (List Char × Tree))

namespace Tree

/-- The empty directory. -/
def empty : Tree := directory []

/-- Put a tree under the child of a name, which `f` makes of the child that is there. -/
def alter (name : List Char) (f : Option Tree → Tree) :
    List (List Char × Tree) → List (List Char × Tree)
  | [] => [(name, f none)]
  | (n, t) :: children =>
    if n = name then (n, f (some t)) :: children else (n, t) :: alter name f children

/-- A tree with another one put in at some place. -/
def insert (leaf : Tree) : List (List Char) → Option Tree → Tree
  | [], _ => leaf
  | name :: names, some (directory children) =>
    directory (alter name (insert leaf names) children)
  | name :: names, _ => directory [(name, insert leaf names none)]

/-- A tree with another one put in at a path. -/
def insertAt (t : Tree) (path : String) (leaf : Tree) : Tree :=
  insert leaf (PathName.parts path.toList) (some t)

/-- A part of a path that names no child. -/
def isDots (name : List Char) : Bool := name == [] || name == ['.'] || name == ['.', '.']

/-- What the parts of a path lead to, `trail` being the directories passed, the innermost first.
Outside of the tree there is nothing but directories above it. -/
def walk (trail : List Tree) : Tree → List (List Char) → Entry
  | file content, [] => .file content
  | file _, _ :: _ => .unreachable .notDirectory
  | directory _, [] => .directory
  | here@(directory children), name :: names =>
    if name = ['.', '.'] then
      match trail with
      | outer :: trail => walk trail outer names
      | [] => if names.all isDots then .directory else .unreachable .noSuchFile
    else if isDots name then walk trail here names
    else if PathName.byteCount name > PathName.nameLimit then .unreachable .nameTooLong
    else match children.lookup name with
      | some child => walk (here :: trail) child names
      | none => .unreachable .noSuchFile

def look (t : Tree) (path : String) : Entry :=
  let cs := path.toList
  if PathName.isUnencodable cs then .unencodable
  else if '\x00' ∈ cs then .embeddedNull
  else if PathName.byteCount cs > PathName.pathLimit then .unreachable .nameTooLong
  else match cs with
    | [] => .unreachable .noSuchFile
    | '/' :: cs =>
      if cs.all fun c => c == '/' || c == '.' then .directory else .unreachable .noSuchFile
    | cs => walk [] t (split '/' cs)

end Tree

end ServiceContracts.Source
