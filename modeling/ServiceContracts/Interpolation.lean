import ServiceContracts.Text.Blank
import ServiceContracts.Text.Case
import ServiceContracts.Text.Word

/-!
# Interpolations

A template holds expressions between `${` and the next `}`; a `${` without a later `}` is plain
text. Inside a path an interpolation stands for one parameter.

* `atStart?` : the interpolation that a text starts with, and what follows it;
* `first?` : the leftmost interpolation of a text;
* `expand` : every interpolation replaced by its `parameter`.
-/

namespace ServiceContracts.Interpolation
open Text

/-- The text up to the first closing brace, and what follows that brace. -/
def enclosed? : List Char → Option (List Char × List Char)
  | [] => none
  | c :: cs =>
    if c = '}' then some ([], cs)
    else (enclosed? cs).map fun (inner, rest) => (c :: inner, rest)

def atStart? : List Char → Option (List Char × List Char)
  | '$' :: '{' :: cs => enclosed? cs
  | _ => none

def first? : List Char → Option (List Char)
  | [] => none
  | c :: cs =>
    match atStart? (c :: cs) with
    | some (inner, _) => some inner
    | none => first? cs

/-- How an interpolation is written. -/
def spelling (inner : List Char) : List Char := '$' :: '{' :: inner ++ ['}']

/-- A name or a dotted path of names. -/
def isIdentifier : List Char → Bool
  | [] => false
  | c :: cs =>
    (isLetter c || c == '_' || c == '$') && cs.all fun c => isWord c || c == '$' || c == '.'

/-- The path parameter for an interpolation: named after an identifier, `:param` for any other
expression. -/
def parameter (inner : List Char) : List Char :=
  let name := trimChars inner
  if isIdentifier name then ':' :: lowerChars name else ":param".toList

/-- `expand` behind the next `skip` characters, which an interpolation has taken. -/
def expandFrom (skip : Nat) : List Char → List Char
  | [] => []
  | c :: cs =>
    match skip with
    | skip + 1 => expandFrom skip cs
    | 0 =>
      match atStart? (c :: cs) with
      | some (inner, _) => parameter inner ++ expandFrom (inner.length + 2) cs
      | none => c :: expandFrom 0 cs

def expand (cs : List Char) : List Char := expandFrom 0 cs

end ServiceContracts.Interpolation
