import ServiceContracts.Issue
import ServiceContracts.Number.Integer
import ServiceContracts.Text.CodePoint

/-!
# Findings as Markdown

The report stands between two comment markers, the second line of which tells the number of
findings. Each kind of finding has a section of its own that can be folded; a kind without findings
has none.

* `rows` and `bullets` of each section : one line for each finding;
* `sections` : the sections that have something to show;
* `markdown` : the whole report, unless a number in its first lines has too many digits.
-/

namespace ServiceContracts.Report
open Number

/-- The marker before a report. -/
def startMarker : String := "<!-- API_CONTRACT_OUTPUT_START -->"

/-- The marker after a report. -/
def endMarker : String := "<!-- API_CONTRACT_OUTPUT_END -->"

/-- The marker that tells the number of findings. -/
def countMarker (n : Nat) : String := "<!-- API_CONTRACT_ISSUE_COUNT:" ++ toString n ++ " -->"

/-- Lines as one text. -/
def lines (ls : List String) : String := "\n".intercalate ls

/-- A text as code. -/
def code (s : String) : String := "`" ++ s ++ "`"

/-- A text in bold. -/
def bold (s : String) : String := "**" ++ s ++ "**"

/-- A number of things in bold. -/
def counted (n : Nat) (things : String) : String := bold (toString n ++ " " ++ things)

/-- Where something stands: a repository, with a location if there is one. -/
def origin (repo location : String) : String :=
  if location.isEmpty then repo else repo ++ " " ++ code location

/-- A row of a table. -/
def row (cells : List String) : String := "| " ++ " | ".intercalate cells ++ " |"

/-- The head of a table. -/
def tableHead (names : List String) : List String := [row names, row (names.map fun _ => ":---")]

/-- A section that can be folded. -/
def details (title : String) (body : List String) : String :=
  lines (["<details>", "<summary>", "<strong>" ++ title ++ "</strong>", "</summary>", ""] ++ body ++
    ["", "</details>"])

/-! ## Diagnostics -/

/-- The line of a diagnostic. -/
def diagnosticLine (d : Diagnostic) : String :=
  "  - " ++ bold d.repo ++ " (" ++ d.kind ++ "): " ++ d.message ++ " [" ++
    ", ".intercalate (d.nodes.map code) ++ "]"

/-- The section of the diagnostics. -/
def structuralSection (ds : List Diagnostic) : String :=
  details (toString ds.length ++ " Structural Errors")
    ("> These repositories could not be analyzed because their router mounts are inconsistent." ::
      "" :: ds.map diagnosticLine)

/-! ## Method mismatches -/

/-- The line of a method mismatch. -/
def mismatchLine (m : MethodMismatch) : String :=
  row [code m.path, code m.calledMethod, ", ".intercalate (m.supportedMethods.map code),
    origin m.callerRepo m.location]

/-- The section of the method mismatches. -/
def mismatchSection (ms : List MethodMismatch) : String :=
  details (toString ms.length ++ " Critical: Method Mismatches")
    (["> A call uses an HTTP method the endpoint does not support. These are direct " ++
        "conflicts between consumer and producer and should be addressed first.", ""]
      ++ tableHead ["Path", "Called With", "Supported", "Caller"] ++ ms.map mismatchLine)

/-! ## Missing and orphaned endpoints -/

/-- The line of a missing endpoint. -/
def missingLine (m : MissingEndpoint) : String :=
  row [code m.method, code m.path, origin m.callerRepo m.location, m.confidence.name]

/-- The line of an orphaned endpoint. -/
def orphanedLine (o : OrphanedEndpoint) : String :=
  row [code o.method, code o.fullPath, origin o.repo o.location, o.confidence.name]

/-- The head of a part of a section. -/
def partHead (n : Nat) (thing : String) (names : List String) : List String :=
  ["#### " ++ toString n ++ " " ++ thing ++ (if n = 1 then "" else "s"), ""] ++ tableHead names

/-- The part of the missing endpoints. -/
def missingPart (ms : List MissingEndpoint) : List String :=
  if ms.isEmpty then []
  else partHead ms.length "Missing Endpoint" ["Method", "Path", "Caller", "Confidence"] ++
    ms.map missingLine ++ [""]

/-- The part of the orphaned endpoints. -/
def orphanedPart (os : List OrphanedEndpoint) : List String :=
  if os.isEmpty then []
  else partHead os.length "Orphaned Endpoint" ["Method", "Path", "Defined In", "Confidence"] ++
    os.map orphanedLine

/-- The section of the missing and the orphaned endpoints. -/
def connectivitySection (ms : List MissingEndpoint) (os : List OrphanedEndpoint) : String :=
  details (toString (ms.length + os.length) ++ " Connectivity Issues")
    (["> These endpoints are either defined but never used (orphaned) or called but never " ++
        "defined (missing). This could be dead code or a misconfigured route.", ""]
      ++ missingPart ms ++ orphanedPart os)

/-! ## Conflicts -/

/-- The order of conflicts in a report: the most serious first, then by package. -/
def conflictPrecedes (a b : Conflict) : Bool :=
  a.severity.rank < b.severity.rank ||
    (a.severity.rank == b.severity.rank && Text.precedes a.package b.package)

/-- The conflicts in the order of a report. -/
def sortedConflicts (cs : List Conflict) : List Conflict := cs.mergeSort conflictPrecedes

/-- The line of a conflict. -/
def conflictLine (c : Conflict) : String :=
  row [code c.package, c.severity.name,
    ", ".intercalate (c.versions.map fun v => code v.version ++ " (" ++ v.repo ++ ")")]

/-- The section of the conflicts. -/
def dependencySection (cs : List Conflict) : String :=
  details (toString cs.length ++ " Dependency Conflicts")
    (["> These packages are declared at different versions across repositories.", ""]
      ++ tableHead ["Package", "Severity", "Versions"] ++ cs.map conflictLine)

/-! ## Suggestions -/

/-- The path of a suggestion, or what was written if it has none. -/
def suggestedPath (s : VariableSuggestion) : String :=
  match s.path with
  | some path => if path.isEmpty then s.rawUrl else path
  | none => s.rawUrl

/-- The line of a suggestion. -/
def suggestionLine (s : VariableSuggestion) : String :=
  "  - " ++ code s.method ++ " using " ++ bold ("[" ++ s.envVar ++ "]") ++ " in " ++
    code (suggestedPath s) ++ " (" ++ origin s.callerRepo s.location ++ ")"

/-- The section of the suggestions. -/
def configurationSection (ss : List VariableSuggestion) : String :=
  details (toString ss.length ++ " Configuration Suggestions")
    (["> These API calls build their URL from environment variables that are not configured. " ++
        "Add them to `internalEnvVars` or `externalEnvVars` to enable full analysis.", ""]
      ++ ss.map suggestionLine)

/-! ## The whole report -/

/-- A section, if there is something to show. -/
def sectionIf (present : Bool) (text : String) : List String := if present then [text] else []

def sections (f : Findings) : List String :=
  let mismatches := f.issues.filterMap Issue.mismatch?
  let missing := f.issues.filterMap Issue.missing?
  let orphaned := f.issues.filterMap Issue.orphaned?
  let suggestions := f.issues.filterMap Issue.suggestion?
  sectionIf (!f.diagnostics.isEmpty) (structuralSection f.diagnostics) ++
    sectionIf (!mismatches.isEmpty) (mismatchSection mismatches) ++
    sectionIf (!missing.isEmpty || !orphaned.isEmpty) (connectivitySection missing orphaned) ++
    sectionIf (!f.conflicts.isEmpty) (dependencySection (sortedConflicts f.conflicts)) ++
    sectionIf (!suggestions.isEmpty) (configurationSection suggestions)

/-- The first lines of a report. -/
def head (f : Findings) : Except Oversized (List String) := do
  let endpoints ← written f.summary.endpointCount
  let calls ← written f.summary.callCount
  .ok [startMarker, countMarker f.count, "### API Contract Analysis Results", "",
    "Analyzed " ++ bold (endpoints ++ " endpoints") ++ " and " ++ bold (calls ++ " API calls") ++
      " across all repositories.", ""]

/-- The line that tells the number of findings of each kind. -/
def totals (f : Findings) : String :=
  "Found " ++ counted f.count "total issues" ++ ": " ++
    counted (f.issues.filterMap Issue.mismatch?).length "method mismatches" ++ ", " ++
    counted ((f.issues.filterMap Issue.missing?).length +
      (f.issues.filterMap Issue.orphaned?).length) "connectivity issues" ++ ", " ++
    counted f.conflicts.length "dependency conflicts" ++ ", " ++
    counted (f.issues.filterMap Issue.suggestion?).length "configuration suggestions" ++ " and " ++
    counted f.diagnostics.length "structural errors" ++ "."

def markdown (f : Findings) : Except Oversized String := do
  let head ← head f
  if f.count = 0 then
    .ok (lines (head ++ ["**No API inconsistencies detected.**", "", endMarker, ""]))
  else
    .ok (lines (head ++ [totals f, ""]) ++ "\n" ++ "\n\n<hr>\n\n".intercalate (sections f) ++
      "\n\n" ++ endMarker ++ "\n")

end ServiceContracts.Report
