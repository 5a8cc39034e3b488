import ServiceContracts.Host
import ServiceContracts.Path

/-!
# Call targets

What a call is aimed at, as it is written in code: a path, an absolute URL, or a URL whose base is
an environment variable. Reading a target needs no configuration.

* `CallTarget` : the forms;
* `CallTarget.read` : the form of a raw target. The spellings of a variable base are tried first,
  then a lone identifier, then an absolute URL; all else is a path.
-/

namespace ServiceContracts
open Text

inductive CallTarget where
  /-- Nothing that can be told apart: an empty text, a lone identifier, a base without a name. -/
  | unknown (path : Option String)
  /-- A path on the caller's own services. -/
  | relative (path : String)
  /-- A path on a named host. -/
  | absolute (host path : String)
  /-- A path behind a base that an environment variable holds, with the base as it was written. -/
  | envBased (name spelling : String) (path : Option String)
deriving DecidableEq, Repr

namespace CallTarget

/-- A target behind a variable base, `rest` being the text behind the base. -/
def ofBase (name spelling rest : List Char) : CallTarget :=
  let path := if rest.all isBlank then none else some (String.ofList (Path.cleanChars rest))
  if name.isEmpty then unknown path else envBased (String.ofList name) (String.ofList spelling) path

/-- A character that starts the name of an environment variable. -/
def startsName (c : Char) : Bool := isLetter c || c == '_'

/-- A character of the name of an environment variable. -/
def continuesName (c : Char) : Bool := startsName c || isDigit c

/-- The variable that is read by an expression at the start, and what follows it. -/
def lookupAtStart? (cs : List Char) : Option (List Char × List Char) :=
  match after? "process.env.".toList cs with
  | some (c :: rest) =>
    if startsName c then some (c :: rest.takeWhile continuesName, rest.dropWhile continuesName)
    else none
  | _ => none

/-- The leftmost variable that is read by an expression, and what follows it. -/
def lookup? : List Char → Option (List Char × List Char)
  | [] => none
  | c :: cs =>
    match lookupAtStart? (c :: cs) with
    | some found => some found
    | none => lookup? cs

/-- A quote of any kind. -/
def isQuote (c : Char) : Bool := c == '\'' || c == '"' || c == '`'

/-- The path that an expression adds to a variable: a `+` and the quotes are left out. -/
def added (rest : List Char) : List Char :=
  let rest := trimChars rest
  let rest := match rest with
    | '+' :: operand => trimChars operand
    | _ => rest
  dropEndsWhile isQuote rest

/-- What follows the scheme of a URL and its two slashes; the scheme may be missing. -/
def afterScheme? (url : List Char) : Option (List Char) :=
  match after? "//".toList url with
  | some rest => some rest
  | none =>
    match url with
    | [] => none
    | c :: cs =>
      if isLetter c then
        after? "://".toList
          (cs.dropWhile fun c => isLetter c || isDigit c || c == '+' || c == '.' || c == '-')
      else none

/-- A character that ends the authority of a URL. -/
def endsAuthority (c : Char) : Bool := c == '/' || c == '?' || c == '#'

/-- An absolute URL, given what follows its scheme. An interpolated host is a variable base. -/
def ofAuthority (url : List Char) : CallTarget :=
  let authority := url.takeWhile fun c => !endsAuthority c
  let rest := url.dropWhile fun c => !endsAuthority c
  match Interpolation.first? authority with
  | some inner => ofBase (trimChars inner) (Interpolation.spelling inner) rest
  | none =>
    absolute (String.ofList (Host.bareChars authority)) (String.ofList (Path.cleanChars rest))

/-- The mark in front of a variable's name and a colon. -/
def sentinel : List Char := "ENV_VAR:".toList

/-- The form of a target without blanks at its ends. -/
def readTrimmed (url : List Char) : CallTarget :=
  if url.isEmpty then unknown none
  else match after? sentinel url with
  | some rest =>
    let name := before ':' rest
    ofBase name (sentinel ++ name) (rest.drop (name.length + 1))
  | none =>
  match Interpolation.atStart? url with
  | some (inner, rest) => ofBase (trimChars inner) (Interpolation.spelling inner) rest
  | none =>
  match lookup? url with
  | some (name, rest) => ofBase name ("process.env.".toList ++ name) (added rest)
  | none =>
  if Interpolation.isIdentifier url then unknown none
  else match afterScheme? url with
  | some rest => ofAuthority rest
  | none => relative (String.ofList (Path.cleanChars url))

def read (raw : String) : CallTarget := readTrimmed (trimChars raw.toList)

end CallTarget

end ServiceContracts
