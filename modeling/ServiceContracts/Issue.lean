/-!
# Issues

What an analysis may find: a call without an endpoint, an endpoint without a call, a call with a
method that the endpoint does not support, a call whose base is a variable that the boundary does
not mention, a package at several versions, and a repository whose mounts are inconsistent.
`Findings` collects them.
-/

namespace ServiceContracts

/-- How sure a finding is. -/
inductive Confidence where
  | high
  | low
deriving DecidableEq, Repr

/-- The name of a confidence. -/
def Confidence.name : Confidence → String
  | high => "high"
  | low => "low"

/-- A call that no endpoint serves. -/
structure MissingEndpoint where
  method : String
  path : String
  rawUrl : String
  callerRepo : String
  location : String := ""
  confidence : Confidence := .high
deriving DecidableEq, Repr

/-- An endpoint that no call uses. -/
structure OrphanedEndpoint where
  method : String
  fullPath : String
  repo : String
  owner : String := ""
  handler : Option String := none
  location : String := ""
  confidence : Confidence := .high
deriving DecidableEq, Repr

/-- A call to a path that is served for other methods only. -/
structure MethodMismatch where
  path : String
  calledMethod : String
  supportedMethods : List String
  rawUrl : String
  callerRepo : String
  location : String := ""
  confidence : Confidence := .high
deriving DecidableEq, Repr

/-- A call whose base is a variable that the boundary does not mention. -/
structure VariableSuggestion where
  method : String
  rawUrl : String
  envVar : String
  path : Option String := none
  callerRepo : String
  location : String := ""
  confidence : Confidence := .low
deriving DecidableEq, Repr

/-- A finding about calls and endpoints. -/
inductive Issue where
  | missing (m : MissingEndpoint)
  | orphaned (o : OrphanedEndpoint)
  | mismatch (m : MethodMismatch)
  | suggestion (s : VariableSuggestion)
deriving DecidableEq, Repr

namespace Issue

/-- The issue in one sentence. -/
def message : Issue → String
  | missing m =>
    "Missing endpoint for " ++ m.method ++ " " ++ m.path ++ " (called from " ++ m.callerRepo ++ ")"
  | orphaned o => "Orphaned endpoint " ++ o.method ++ " " ++ o.fullPath ++ " in " ++ o.repo
  | mismatch m =>
    "Method mismatch on " ++ m.path ++ ": called with " ++ m.calledMethod ++
      ", endpoint supports " ++ ", ".intercalate m.supportedMethods
  | suggestion s =>
    s.method ++ " call built from unclassified env var " ++ s.envVar ++ ": " ++ s.rawUrl

/-- How sure the issue is. -/
def confidence : Issue → Confidence
  | missing m => m.confidence
  | orphaned o => o.confidence
  | mismatch m => m.confidence
  | suggestion s => s.confidence

/-- The missing endpoint of an issue. -/
def missing? : Issue → Option MissingEndpoint
  | missing m => some m
  | _ => none

/-- The orphaned endpoint of an issue. -/
def orphaned? : Issue → Option OrphanedEndpoint
  | orphaned o => some o
  | _ => none

/-- The method mismatch of an issue. -/
def mismatch? : Issue → Option MethodMismatch
  | mismatch m => some m
  | _ => none

/-- The suggestion of an issue. -/
def suggestion? : Issue → Option VariableSuggestion
  | suggestion s => some s
  | _ => none

end Issue

/-- How far apart versions are. -/
inductive Severity where
  | critical
  | warning
  | info
deriving DecidableEq, Repr

namespace Severity

/-- The name of a severity. -/
def name : Severity → String
  | critical => "critical"
  | warning => "warning"
  | info => "info"

/-- The place of a severity in a report. -/
def rank : Severity → Nat
  | critical => 0
  | warning => 1
  | info => 2

end Severity

/-- The version with which a repository counts. -/
structure RepoVersion where
  repo : String
  version : String
  source : String := ""
deriving DecidableEq, Repr

/-- A package at several versions. -/
structure Conflict where
  package : String
  versions : List RepoVersion
  severity : Severity
  description : String
deriving DecidableEq, Repr

/-- A repository whose mounts are inconsistent. -/
structure Diagnostic where
  repo : String
  kind : String
  nodes : List String
  message : String
deriving DecidableEq, Repr

/-- How much was analysed. -/
structure Summary where
  endpointCount : Int := 0
  callCount : Int := 0
deriving DecidableEq, Repr

/-- All that an analysis has found. -/
structure Findings where
  issues : List Issue := []
  conflicts : List Conflict := []
  summary : Summary := {}
  diagnostics : List Diagnostic := []
deriving DecidableEq, Repr

namespace Findings

/-- The number of findings. -/
def count (f : Findings) : Nat := f.issues.length + f.conflicts.length + f.diagnostics.length

/-- There is a finding. -/
def any (f : Findings) : Bool :=
  !f.issues.isEmpty || !f.conflicts.isEmpty || !f.diagnostics.isEmpty

end Findings

end ServiceContracts
