import ServiceContracts.Boundary
import ServiceContracts.Issue
import ServiceContracts.Mount.Chain
import ServiceContracts.Route
import ServiceContracts.Verb

/-!
# Matching calls with endpoints

Every distinct call is decided by itself, against the whole table: it is served by the most specific
row for its method, or ignored, or an issue. A row is consumed if some call is served by it, and the
keys that no call consumes are orphaned.

* `distinctCalls` : the first call of each method, target and caller;
* `decision` : what becomes of one call;
* `orphans` : the first row of each key without a consumed row;
* `run` : all issues, the marked table and the number of distinct calls.
-/

namespace ServiceContracts.Matching
open Mount

/-! ## Calls -/

/-- What makes two calls the same. -/
def callKey (c : CallFact) : String × String × String :=
  (Verb.canonical c.method, c.url, c.callerRepo)

def distinctCalls (calls : List CallFact) : List CallFact := distinctBy callKey calls

/-! ## Rows -/

/-- A row with its position in the table. -/
abbrev Place := Row × Nat

/-- A row comes before another one as the answer to a call: it is more specific, or as specific and
registered earlier. -/
def precedes (a b : Row) : Bool :=
  let s := Route.specificity a.fullPath
  let t := Route.specificity b.fullPath
  s < t || (s == t && a.order < b.order)

/-- The first place that no other one precedes, `best` being the first so far. -/
def bestFrom (best : Place) : List Place → Place
  | [] => best
  | p :: places => bestFrom (if precedes p.1 best.1 then p else best) places

/-- The first place that no other one precedes. -/
def best? : List Place → Option Place
  | [] => none
  | p :: places => some (bestFrom p places)

/-- The rows of a method whose route serves a path. -/
def serving (table : List Place) (method path : String) : List Place :=
  table.filter fun p => p.1.method == method && Route.serves p.1.fullPath path

/-- The row that answers a call: rows of the method are asked first, then those for all methods. -/
def answer? (table : List Place) (verb : Verb) (path : String) : Option Place :=
  best? (serving table verb.name path ++ serving table Verb.any path)

/-- The other methods for which a path is served, in the order of a report. -/
def supported (table : List Place) (verb : Verb) (path : String) : List String :=
  (distinct ((table.filter fun p =>
    p.1.method != verb.name && Route.serves p.1.fullPath path).map fun p => p.1.method)).mergeSort
      Verb.precedes

/-! ## Decisions -/

/-- What becomes of a call. -/
inductive Decision where
  /-- The row at this place of the table serves it. -/
  | served (place : Nat)
  /-- It leaves the boundary. -/
  | ignored
  | raised (issue : Issue)
deriving DecidableEq, Repr

/-- The issue of a decision. -/
def Decision.issue? : Decision → Option Issue
  | raised issue => some issue
  | _ => none

/-- A call that cannot be placed. -/
def unplaced (c : CallFact) (method path : String) : Issue :=
  let shown := Text.trim path
  .missing { method, path := if shown.isEmpty then "(empty)" else shown, rawUrl := c.url,
             callerRepo := c.callerRepo, location := c.location, confidence := .low }

/-- What becomes of a call to a path inside the boundary. -/
def decisionAt (table : List Place) (c : CallFact) (verb : Verb) (path : String) : Decision :=
  match answer? table verb path with
  | some place => .served place.2
  | none =>
    match supported table verb path with
    | [] =>
      .raised (.missing { method := verb.name, path, rawUrl := c.url, callerRepo := c.callerRepo,
                          location := c.location })
    | methods =>
      .raised (.mismatch { path, calledMethod := verb.name, supportedMethods := methods,
                           rawUrl := c.url, callerRepo := c.callerRepo, location := c.location })

def decision (boundary : Boundary) (table : List Place) (c : CallFact) : Decision :=
  match Verb.read? c.method with
  | none =>
    let method := Verb.canonical c.method
    .raised (unplaced c (if method.isEmpty then "UNKNOWN" else method) c.url)
  | some verb =>
    if Text.isBlankText c.url then .raised (unplaced c verb.name c.url)
    else
      let target := boundary.normalize c.url
      match target.standing with
      | .external => .ignored
      | .unlisted =>
        .raised (.suggestion { method := verb.name, rawUrl := c.url,
                               envVar := target.envVar?.getD "", path := target.path?,
                               callerRepo := c.callerRepo, location := c.location })
      | .unclassified => .raised (unplaced c verb.name (target.path?.getD c.url))
      | .internal => decisionAt table c verb (target.path?.getD "/")

/-! ## The whole table -/

/-- What makes two rows the same endpoint. -/
def rowKey (r : Row) : String × String × String := (r.repo, r.method, r.fullPath)

/-- The rows of a table with their places, none of them consumed. -/
def fresh (rows : List Row) : List Place :=
  (rows.map fun r => { r with consumed := false }).zipIdx

/-- The rows of a table, consumed where a decision says so. -/
def marked (table : List Place) (decisions : List Decision) : List Row :=
  table.map fun p => { p.1 with consumed := decisions.contains (.served p.2) }

/-- An endpoint that no call uses. -/
def orphan (r : Row) : Issue :=
  .orphaned { method := r.method, fullPath := r.fullPath, repo := r.repo, owner := r.owner,
              handler := r.handler, location := r.location }

def orphans (rows : List Row) : List Row :=
  let used := (rows.filter fun r => r.consumed).map rowKey
  (distinctBy rowKey (rows.filter fun r => !r.consumed)).filter fun r => !used.contains (rowKey r)

/-- The issues of a matching, the marked table and the number of distinct calls. -/
structure Outcome where
  issues : List Issue
  rows : List Row
  callCount : Nat
deriving DecidableEq, Repr

def run (boundary : Boundary) (rows : List Row) (calls : List CallFact) : Outcome :=
  let table := fresh rows
  let calls := distinctCalls calls
  let decisions := calls.map (decision boundary table)
  let rows := marked table decisions
  { issues := decisions.filterMap Decision.issue? ++ (orphans rows).map orphan
    rows, callCount := calls.length }

end ServiceContracts.Matching
