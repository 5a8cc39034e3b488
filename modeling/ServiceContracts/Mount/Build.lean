import ServiceContracts.Distinct
import ServiceContracts.Mount.Cycle
import ServiceContracts.Mount.Fault
import ServiceContracts.Verb

/-!
# Building mount graphs

The facts of a repository mention nodes: a mount its parent and its child, an endpoint its owner.
Every name becomes one node, whose kind is the first one that is known. A graph is refused if a
mount has a blank side, and otherwise if its mounts form a cycle.

* `Edge.of`, `Endpoint.of` : the mount and the endpoint that a fact registers;
* `collect` : the graph that the facts describe, whether it is consistent or not;
* `build` : the graph of one repository, or its fault;
* `buildAll` : every repository by itself, so that a fault stays with its own.
-/

namespace ServiceContracts.Mount

/-- The owner of endpoints whose owner has no name. -/
def anonymousOwner : String := "(anonymous)"

/-- The text, or another one if it is empty. -/
def orElse (text other : String) : String := if text.isEmpty then other else text

theorem orElse_eq (text other : String) :
    orElse text other = if text = "" then other else text := by
  simp [orElse]

/-- The name of the owner of an endpoint. -/
def ownerOf (e : EndpointFact) : String := orElse (Text.trim e.owner) anonymousOwner

/-- The names that a fact mentions, each with the kind it declares. -/
def mentions : Fact → List (String × OwnerKind)
  | .mount m => [(Text.trim m.parent, m.parentKind), (Text.trim m.child, m.childKind)]
  | .endpoint e => [(ownerOf e, e.ownerKind)]
  | _ => []

/-- The mount that a fact registers in a repository. -/
def Edge.of (repo : String) (m : MountFact) : Edge :=
  { parent := Text.trim m.parent, child := Text.trim m.child
    mountPoint := orElse m.mountPoint "/", repo, location := m.location }

/-- The endpoint that a fact registers in a repository, behind `order` others. -/
def Endpoint.of (repo : String) (order : Nat) (e : EndpointFact) : Endpoint :=
  { owner := ownerOf e, method := Verb.canonical e.method, path := e.path, handler := e.handler
    repo, location := e.location, order }

theorem Endpoint.owner_of (repo : String) (order : Nat) (e : EndpointFact) :
    (Endpoint.of repo order e).owner = ownerOf e := by
  rw [Endpoint.of]

/-- The first known kind that is declared for a name. -/
def declaredKind (mentioned : List (String × OwnerKind)) (name : String) : OwnerKind :=
  match mentioned.find? fun m => m.1 == name && m.2 != .unknown with
  | some m => m.2
  | none => .unknown

def collect (repo : String) (facts : List Fact) : Graph :=
  let mentioned := facts.flatMap mentions
  { repo
    nodes := (distinct (mentioned.map Prod.fst)).map fun name =>
      { name, kind := declaredKind mentioned name }
    edges := (facts.filterMap Fact.mount?).map (Edge.of repo)
    endpoints := (facts.filterMap Fact.endpoint?).mapIdx (Endpoint.of repo) }

/-- The mount has a blank side. -/
def isBlankMount (m : MountFact) : Bool :=
  Text.isBlankText m.parent || Text.isBlankText m.child

def build (repo : String) (facts : List Fact) : Except Fault Graph :=
  match (facts.filterMap Fact.mount?).find? isBlankMount with
  | some m => .error (.unknownNode repo m.parent m.child)
  | none =>
    let graph := collect repo facts
    match graph.cycle? with
    | some path => .error (.cycle repo (path.headD "") (path.dropLast.getLastD "") path)
    | none => .ok graph

/-- A fact that takes part in a mount graph. -/
def isRegistration : Fact → Bool
  | .mount _ | .endpoint _ => true
  | _ => false

/-- The repositories with registrations, in the order of their first one. -/
def registered (facts : List Fact) : List String :=
  distinct ((facts.filter isRegistration).map Fact.repo)

/-- The registrations of one repository. -/
def registrations (facts : List Fact) (repo : String) : List Fact :=
  facts.filter fun f => isRegistration f && f.repo == repo

def buildAll (facts : List Fact) : List (Except Fault Graph) :=
  (registered facts).map fun repo => build repo (registrations facts repo)

/-- The graphs among some outcomes. -/
def graphs (outcomes : List (Except Fault Graph)) : List Graph :=
  outcomes.filterMap fun
    | .ok g => some g
    | .error _ => none

/-- The faults among some outcomes. -/
def faults (outcomes : List (Except Fault Graph)) : List Fault :=
  outcomes.filterMap fun
    | .ok _ => none
    | .error f => some f

end ServiceContracts.Mount
