import ServiceContracts.Issue
import ServiceContracts.Schema.Field

/-!
# Findings in documents

How issues, conflicts, diagnostics and whole findings are read from maps; fields go by a name with
capitals and by one with underscores.
-/

namespace ServiceContracts
open Document Schema

/-- A confidence. -/
def Confidence.ofPart : Part → Checked Confidence :=
  choice Confidence.name [Confidence.high, Confidence.low]

/-- A missing endpoint given by its fields. -/
def MissingEndpoint.ofEntries (e : Entries) : Checked MissingEndpoint :=
  MissingEndpoint.mk <$> required e ["method"] text <*> required e ["path"] text
    <*> required e ["rawUrl", "raw_url"] text <*> required e ["callerRepo", "caller_repo"] text
    <*> defaulted e ["location"] text "" <*> defaulted e ["confidence"] Confidence.ofPart .high

/-- An orphaned endpoint given by its fields. -/
def OrphanedEndpoint.ofEntries (e : Entries) : Checked OrphanedEndpoint :=
  OrphanedEndpoint.mk <$> required e ["method"] text
    <*> required e ["fullPath", "full_path"] text <*> required e ["repoId", "repo_id"] text
    <*> defaulted e ["owner"] text ""
    <*> defaulted e ["handlerName", "handler_name"] optionalText none
    <*> defaulted e ["location"] text "" <*> defaulted e ["confidence"] Confidence.ofPart .high

/-- A method mismatch given by its fields. -/
def MethodMismatch.ofEntries (e : Entries) : Checked MethodMismatch :=
  MethodMismatch.mk <$> required e ["path"] text
    <*> required e ["calledMethod", "called_method"] text
    <*> required e ["supportedMethods", "supported_methods"] (list text)
    <*> required e ["rawUrl", "raw_url"] text <*> required e ["callerRepo", "caller_repo"] text
    <*> defaulted e ["location"] text "" <*> defaulted e ["confidence"] Confidence.ofPart .high

/-- A suggestion given by its fields. -/
def VariableSuggestion.ofEntries (e : Entries) : Checked VariableSuggestion :=
  VariableSuggestion.mk <$> required e ["method"] text
    <*> required e ["rawUrl", "raw_url"] text <*> required e ["envVar", "env_var"] text
    <*> defaulted e ["path"] optionalText none
    <*> required e ["callerRepo", "caller_repo"] text
    <*> defaulted e ["location"] text "" <*> defaulted e ["confidence"] Confidence.ofPart .low

namespace Issue

/-- The names of the kinds of issues, each with the check of its fields. -/
def kinds : List (String × (Entries → Checked Issue)) :=
  [("missing_endpoint", fun e => missing <$> MissingEndpoint.ofEntries e),
    ("orphaned_endpoint", fun e => orphaned <$> OrphanedEndpoint.ofEntries e),
    ("method_mismatch", fun e => mismatch <$> MethodMismatch.ofEntries e),
    ("env_var_call_suggestion", fun e => suggestion <$> VariableSuggestion.ofEntries e)]

/-- An issue, told apart by its kind. -/
def ofPart : Part → Checked Issue := tagged "type" kinds

end Issue

/-- A severity. -/
def Severity.ofPart : Part → Checked Severity :=
  choice Severity.name [Severity.critical, Severity.warning, Severity.info]

/-- The version of a repository. -/
def RepoVersion.ofPart : Part → Checked RepoVersion :=
  model "RepoVersion" fun e =>
    RepoVersion.mk <$> required e ["repoId", "repo_id"] text <*> required e ["version"] text
      <*> defaulted e ["sourcePath", "source_path"] text ""

/-- A conflict. -/
def Conflict.ofPart : Part → Checked Conflict :=
  model "DependencyConflict" fun e =>
    Conflict.mk <$> required e ["packageName", "package_name"] text
      <*> required e ["versions"] (list RepoVersion.ofPart)
      <*> required e ["severity"] Severity.ofPart <*> required e ["description"] text

/-- A diagnostic. -/
def Diagnostic.ofPart : Part → Checked Diagnostic :=
  model "StructuralDiagnostic" fun e =>
    Diagnostic.mk <$> required e ["repoId", "repo_id"] text <*> required e ["kind"] text
      <*> required e ["nodes"] (list text) <*> required e ["message"] text

/-- A summary. -/
def Summary.ofPart : Part → Checked Summary :=
  model "Summary" fun e =>
    Summary.mk <$> defaulted e ["endpointCount", "endpoint_count"] integer 0
      <*> defaulted e ["callCount", "call_count"] integer 0

/-- All findings. -/
def Findings.ofPart : Part → Checked Findings :=
  model "AnalysisResult" fun e =>
    Findings.mk <$> defaulted e ["issues"] (list Issue.ofPart) []
      <*> defaulted e ["dependencyConflicts", "dependency_conflicts"] (list Conflict.ofPart) []
      <*> defaulted e ["summary"] Summary.ofPart {}
      <*> defaulted e ["diagnostics"] (list Diagnostic.ofPart) []

end ServiceContracts
