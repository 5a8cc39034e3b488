import ServiceContracts.CallTarget
import ServiceContracts.Distinct

/-!
# Service boundaries

A boundary tells which hosts and which environment variables lead to services of the organisation.

* `Boundary.merge` : the union of two boundaries, first occurrences in order;
* `Boundary.standing` : on which side a call target lies;
* `Boundary.normalize` : a raw target, read and judged.
-/

namespace ServiceContracts
open Text

/-- Which hosts and variables are internal, and which variables are known to be external. -/
structure Boundary where
  internalDomains : List String := []
  internalVariables : List String := []
  externalVariables : List String := []
deriving DecidableEq, Repr

/-- On which side of a boundary a call target lies. -/
inductive Standing where
  | internal
  | external
  /-- External, as the base is a variable that the boundary does not mention. -/
  | unlisted
  | unclassified
deriving DecidableEq, Repr

/-- The three sides that a report tells apart. -/
def Standing.name : Standing → String
  | internal => "internal"
  | external | unlisted => "external"
  | unclassified => "unclassified"

/-- A raw call target with what it says and where it lies. -/
structure Normalized where
  raw : String
  target : CallTarget
  standing : Standing
deriving DecidableEq, Repr

namespace Normalized

/-- The canonical path, if the target has one; an internal base alone is the root. -/
def path? (n : Normalized) : Option String :=
  match n.target with
  | .unknown path => path
  | .relative path | .absolute _ path => some path
  | .envBased _ _ path => if n.standing = .internal then some (path.getD "/") else path

/-- The part of the target in front of its path: a host, or a variable as it was written. -/
def base? (n : Normalized) : Option String :=
  match n.target with
  | .absolute host _ => some host
  | .envBased _ spelling _ => some spelling
  | _ => none

/-- The environment variable that holds the base. -/
def envVar? (n : Normalized) : Option String :=
  match n.target with
  | .envBased name _ _ => some name
  | _ => none

/-- The environment variable that holds the base, if the boundary does not mention it. -/
def unlisted? (n : Normalized) : Option String :=
  if n.standing = .unlisted then n.envVar? else none

/-- The target lies inside the boundary. -/
def isInternal (n : Normalized) : Bool := n.standing = .internal

/-- The target lies outside the boundary. -/
def isExternal (n : Normalized) : Bool := n.standing = .external || n.standing = .unlisted

end Normalized

namespace Boundary

def merge (b c : Boundary) : Boundary :=
  { internalDomains := distinct (b.internalDomains ++ c.internalDomains)
    internalVariables := distinct (b.internalVariables ++ c.internalVariables)
    externalVariables := distinct (b.externalVariables ++ c.externalVariables) }

/-- The hosts of the internal domains that are not blank. -/
def hosts (b : Boundary) : List (List Char) :=
  (b.internalDomains.filter fun domain => !isBlankText domain).map fun domain =>
    Host.bareChars domain.toList

/-- The host is, contains or belongs to an internal one. -/
def isInternalHost (b : Boundary) (host : List Char) : Bool :=
  let host := Host.bareChars host
  !host.isEmpty && b.hosts.any (Host.related host)

def standing (b : Boundary) : CallTarget → Standing
  | .unknown _ => .unclassified
  | .relative _ => .internal
  | .absolute host _ => if b.isInternalHost host.toList then .internal else .external
  | .envBased name _ _ =>
    if name ∈ b.internalVariables then .internal
    else if name ∈ b.externalVariables then .external
    else .unlisted

def normalize (b : Boundary) (raw : String) : Normalized :=
  { raw, target := CallTarget.read raw, standing := b.standing (CallTarget.read raw) }

end Boundary

end ServiceContracts
