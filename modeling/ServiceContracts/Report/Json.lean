import ServiceContracts.Document.Json.Writer
import ServiceContracts.Issue

/-!
# Findings as JSON

Every finding becomes an object with its fields in a fixed order; absent texts are null.
-/

namespace ServiceContracts.Report
open Document.Json

/-- A text, or null. -/
def optional : Option String → Tree
  | some s => .text s
  | none => .null

/-- An issue with its kind and fields. -/
def issueTree : Issue → Tree
  | .missing m =>
    .object [("type", .text "missing_endpoint"), ("method", .text m.method),
      ("path", .text m.path), ("rawUrl", .text m.rawUrl), ("callerRepo", .text m.callerRepo),
      ("location", .text m.location), ("confidence", .text m.confidence.name)]
  | .orphaned o =>
    .object [("type", .text "orphaned_endpoint"), ("method", .text o.method),
      ("fullPath", .text o.fullPath), ("repoId", .text o.repo), ("owner", .text o.owner),
      ("handlerName", optional o.handler), ("location", .text o.location),
      ("confidence", .text o.confidence.name)]
  | .mismatch m =>
    .object [("type", .text "method_mismatch"), ("path", .text m.path),
      ("calledMethod", .text m.calledMethod),
      ("supportedMethods", .list (m.supportedMethods.map .text)), ("rawUrl", .text m.rawUrl),
      ("callerRepo", .text m.callerRepo), ("location", .text m.location),
      ("confidence", .text m.confidence.name)]
  | .suggestion s =>
    .object [("type", .text "env_var_call_suggestion"), ("method", .text s.method),
      ("rawUrl", .text s.rawUrl), ("envVar", .text s.envVar), ("path", optional s.path),
      ("callerRepo", .text s.callerRepo), ("location", .text s.location),
      ("confidence", .text s.confidence.name)]

/-- The version of a repository. -/
def versionTree (v : RepoVersion) : Tree :=
  .object [("repoId", .text v.repo), ("version", .text v.version), ("sourcePath", .text v.source)]

/-- A conflict. -/
def conflictTree (c : Conflict) : Tree :=
  .object [("packageName", .text c.package), ("versions", .list (c.versions.map versionTree)),
    ("severity", .text c.severity.name), ("description", .text c.description)]

/-- A diagnostic. -/
def diagnosticTree (d : Diagnostic) : Tree :=
  .object [("repoId", .text d.repo), ("kind", .text d.kind), ("nodes", .list (d.nodes.map .text)),
    ("message", .text d.message)]

/-- All findings. -/
def tree (f : Findings) : Tree :=
  .object [("issues", .list (f.issues.map issueTree)),
    ("dependencyConflicts", .list (f.conflicts.map conflictTree)),
    ("summary", .object [("endpointCount", .count f.summary.endpointCount),
      ("callCount", .count f.summary.callCount)]),
    ("diagnostics", .list (f.diagnostics.map diagnosticTree))]

/-- The JSON report; two spaces for each level are usual. -/
def json (f : Findings) (indent : Option Nat) : String := (tree f).write indent

end ServiceContracts.Report
