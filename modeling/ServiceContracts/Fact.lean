/-!
# Facts about code

A classifier turns every call site of every repository into a fact: an endpoint that is registered,
a call that is made, a router that is mounted, or something without bearing on the analysis.
-/

namespace ServiceContracts

/-- What the variable that owns endpoints holds. -/
inductive OwnerKind where
  | app
  | router
  | unknown
deriving DecidableEq, Repr

/-- The name of a kind of owner. -/
def OwnerKind.name : OwnerKind → String
  | app => "app"
  | router => "router"
  | unknown => "unknown"

/-- All kinds of owners. -/
def OwnerKind.all : List OwnerKind := [app, router, unknown]

/-- An endpoint registered on an app or a router, before any mount point. -/
structure EndpointFact where
  method : String
  path : String
  owner : String
  handler : Option String := none
  repo : String
  ownerKind : OwnerKind := .unknown
  location : String := ""
deriving DecidableEq, Repr

/-- An outbound call. -/
structure CallFact where
  method : String
  url : String
  callerRepo : String
  location : String := ""
deriving DecidableEq, Repr

/-- A router mounted on an app or another router. -/
structure MountFact where
  parent : String
  child : String
  mountPoint : String := "/"
  repo : String
  parentKind : OwnerKind := .unknown
  childKind : OwnerKind := .unknown
  location : String := ""
deriving DecidableEq, Repr

/-- A call site without bearing on the analysis. -/
structure SiteFact where
  repo : String := ""
  location : String := ""
deriving DecidableEq, Repr

/-- One classified call site. -/
inductive Fact where
  | endpoint (e : EndpointFact)
  | call (c : CallFact)
  | mount (m : MountFact)
  | middleware (s : SiteFact)
  | irrelevant (s : SiteFact)
deriving DecidableEq, Repr

namespace Fact

/-- The endpoint of a fact. -/
def endpoint? : Fact → Option EndpointFact
  | endpoint e => some e
  | _ => none

/-- The call of a fact. -/
def call? : Fact → Option CallFact
  | call c => some c
  | _ => none

/-- The mount of a fact. -/
def mount? : Fact → Option MountFact
  | mount m => some m
  | _ => none

/-- The repository that a fact is about. -/
def repo : Fact → String
  | endpoint e => e.repo
  | call c => c.callerRepo
  | mount m => m.repo
  | middleware s => s.repo
  | irrelevant s => s.repo

end Fact

end ServiceContracts
