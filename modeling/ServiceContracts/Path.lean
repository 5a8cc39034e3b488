import ServiceContracts.Interpolation
import ServiceContracts.Text.Split

/-!
# Paths

A canonical path starts with a slash, has no empty segment, ends with a slash only if it is the
root, and has neither query nor fragment.

* `segments` : the texts between the slashes, without the empty ones;
* `tidy` : slashes put in order;
* `clean` : the canonical path of a call target, interpolations turned into parameters;
* `join` : mount points and a local path put together.
-/

namespace ServiceContracts.Path
open Text

def segments (path : List Char) : List (List Char) :=
  (split '/' path).filter fun segment => !segment.isEmpty

/-- Runs of slashes become one. -/
def collapse : List Char → List Char
  | [] => []
  | c :: cs => if c = '/' ∧ cs.head? = some '/' then collapse cs else c :: collapse cs

def tidy (path : List Char) : List Char :=
  match dropEndWhile (· == '/') (collapse path) with
  | [] => ['/']
  | kept => kept

/-- A slash in front unless there is one. -/
def rooted (path : List Char) : List Char :=
  if path.head? = some '/' then path else '/' :: path

/-- The text before the first `?` that no backslash precedes; `escaped` tells whether one stands
before the text. -/
def beforeQueryFrom (escaped : Bool) : List Char → List Char
  | [] => []
  | c :: cs => if c = '?' && !escaped then [] else c :: beforeQueryFrom (c == '\\') cs

/-- The text before the first `?` that no backslash precedes. -/
def beforeQuery (path : List Char) : List Char := beforeQueryFrom false path

/-- The canonical path of a call target. -/
def cleanChars (path : List Char) : List Char :=
  tidy (rooted (before '#' (beforeQuery (Interpolation.expand (trimChars path)))))

def clean (path : String) : String := String.ofList (cleanChars path.toList)

/-- The parts that are not blank, trimmed and put together. -/
def joinChars (parts : List (List Char)) : List Char :=
  tidy ('/' :: ['/'].intercalate ((parts.map trimChars).filter fun part => !part.isEmpty))

def join (parts : List String) : String := String.ofList (joinChars (parts.map String.toList))

end ServiceContracts.Path
