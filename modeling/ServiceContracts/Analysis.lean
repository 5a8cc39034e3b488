import ServiceContracts.Dependency.Conflict
import ServiceContracts.Log.Event
import ServiceContracts.Matching
import ServiceContracts.Mount.Build

/-!
# Analysis of a snapshot

Endpoints without a usable method or path are set apart and reported as orphans; the others are
resolved repository by repository and matched with the calls. A repository whose mounts are
inconsistent becomes a diagnostic and leaves the rest as it is.

* `Run` : the parts of an analysis before its conflicts are graded;
* `analyze` : all findings; only an overlong version number stops it;
* `events` : what the analysis tells about its course.
-/

namespace ServiceContracts.Analysis
open Mount Number

/-- An endpoint that cannot be matched: its method is none or its path is blank. -/
def isGap (e : EndpointFact) : Bool :=
  (Verb.registered? e.method).isNone || Text.isBlankText e.path

/-- A fact that is an endpoint which cannot be matched. -/
def isGapFact : Fact → Bool
  | .endpoint e => isGap e
  | _ => false

/-- The endpoints that cannot be matched, in order. -/
def gaps (facts : List Fact) : List EndpointFact :=
  (facts.filterMap Fact.endpoint?).filter isGap

/-- The report of an endpoint that cannot be matched. -/
def gapReport (e : EndpointFact) : OrphanedEndpoint :=
  { method := orElse (Verb.canonical e.method) "UNKNOWN"
    fullPath := orElse (Text.trim e.path) "(empty)"
    repo := e.repo, owner := e.owner, handler := e.handler, location := e.location
    confidence := .low }

def gapIssue (e : EndpointFact) : Issue := .orphaned (gapReport e)

/-- The report of a repository whose graph cannot be built. -/
def diagnostic (f : Fault) : Diagnostic :=
  { repo := f.repo, kind := f.kind, nodes := f.nodes, message := f.message }

/-- The outcome of every repository and the matching over all that could be built. -/
structure Run where
  gaps : List EndpointFact
  outcomes : List (Except Fault Graph)
  matching : Matching.Outcome

namespace Run

/-- The parts of an analysis before its conflicts are graded. -/
def of (boundary : Boundary) (s : Snapshot) : Run :=
  let outcomes := buildAll (s.facts.filter fun f => !isGapFact f)
  { gaps := Analysis.gaps s.facts, outcomes
    matching := Matching.run boundary (resolveAll (graphs outcomes)) s.calls }

/-- The findings, given the conflicts. -/
def findings (r : Run) (conflicts : List Conflict) : Findings :=
  { issues := r.matching.issues ++ r.gaps.map gapIssue
    conflicts
    summary := { endpointCount := r.matching.rows.length, callCount := r.matching.callCount }
    diagnostics := (faults r.outcomes).map diagnostic }

end Run

def analyze (boundary : Boundary) (s : Snapshot) : Except Overlong Findings := do
  let conflicts ← Dependency.conflicts s.declarations
  .ok ((Run.of boundary s).findings conflicts)

/-! ## Events -/

/-- The events of one repository. -/
def outcomeEvents : Except Fault Graph → List Log.Event
  | .error f => [.structuralError f]
  | .ok g =>
    ((g.withRole .unmounted).filter fun n => n.kind = .router).map
        (fun n => .unmountedRouter g.repo n.name) ++
      [.graphBuilt g.repo g.nodes.length g.edges.length g.endpoints.length]

/-- The events at the end of an analysis; none if it stops before. -/
def closingEvents (s : Snapshot) (r : Run) : List Log.Event :=
  match Dependency.groups s.declarations with
  | .error _ => []
  | .ok groups =>
    match Dependency.conflictsOf groups with
    | .error _ => []
    | .ok conflicts =>
      let found := r.findings conflicts
      [.conflictsFound groups.length conflicts.length,
        .analysisComplete s.repos.length r.matching.rows.length r.matching.callCount
          found.issues.length conflicts.length found.diagnostics.length]

def events (boundary : Boundary) (s : Snapshot) : List Log.Event :=
  let r := Run.of boundary s
  r.gaps.map (fun e => .classificationGap e.repo e.method e.path) ++
    r.outcomes.flatMap outcomeEvents ++ closingEvents s r

end ServiceContracts.Analysis
