import ServiceContracts.Boundary
import ServiceContracts.Schema.Field
import ServiceContracts.Snapshot

/-!
# Snapshots and boundaries in documents

How facts, declarations, snapshots and boundaries are written as maps.
-/

namespace ServiceContracts
open Document Schema

/-- The kind of an owner. -/
def OwnerKind.ofPart : Part → Checked OwnerKind := choice OwnerKind.name OwnerKind.all

/-- An endpoint given by its fields. -/
def EndpointFact.ofEntries (e : Entries) : Checked EndpointFact :=
  EndpointFact.mk <$> required e ["method"] text <*> required e ["path"] text
    <*> required e ["owner"] text <*> defaulted e ["handler"] optionalText none
    <*> required e ["repo"] text <*> defaulted e ["owner_type"] OwnerKind.ofPart .unknown
    <*> defaulted e ["location"] text ""

/-- A call given by its fields. -/
def CallFact.ofEntries (e : Entries) : Checked CallFact :=
  CallFact.mk <$> required e ["method"] text <*> required e ["url"] text
    <*> required e ["caller_repo"] text <*> defaulted e ["location"] text ""

/-- A mount given by its fields. -/
def MountFact.ofEntries (e : Entries) : Checked MountFact :=
  MountFact.mk <$> required e ["parent"] text <*> required e ["child"] text
    <*> defaulted e ["path_prefix"] text "/" <*> required e ["repo"] text
    <*> defaulted e ["parent_type"] OwnerKind.ofPart .unknown
    <*> defaulted e ["child_type"] OwnerKind.ofPart .unknown
    <*> defaulted e ["location"] text ""

/-- A call site given by its fields. -/
def SiteFact.ofEntries (e : Entries) : Checked SiteFact :=
  SiteFact.mk <$> defaulted e ["repo"] text "" <*> defaulted e ["location"] text ""

namespace Fact

/-- The names of the kinds of facts, each with the check of its fields. -/
def kinds : List (String × (Entries → Checked Fact)) :=
  [("http_endpoint", fun e => endpoint <$> EndpointFact.ofEntries e),
    ("data_fetching_call", fun e => call <$> CallFact.ofEntries e),
    ("router_mount", fun e => mount <$> MountFact.ofEntries e),
    ("middleware", fun e => middleware <$> SiteFact.ofEntries e),
    ("irrelevant", fun e => irrelevant <$> SiteFact.ofEntries e)]

/-- The name of the kind of a fact. -/
def kindName : Fact → String
  | endpoint _ => "http_endpoint"
  | call _ => "data_fetching_call"
  | mount _ => "router_mount"
  | middleware _ => "middleware"
  | irrelevant _ => "irrelevant"

/-- A fact, told apart by its kind. -/
def ofPart : Part → Checked Fact := tagged "kind" kinds

end Fact

/-- A declaration of a package version. -/
def Declaration.ofPart : Part → Checked Declaration :=
  model "DependencyRecord" fun e =>
    Declaration.mk <$> required e ["package_name"] text <*> required e ["version"] text
      <*> required e ["repo_id"] text <*> defaulted e ["source_path"] text ""

/-- A snapshot. -/
def Snapshot.ofPart : Part → Checked Snapshot :=
  model "Snapshot" fun e =>
    Snapshot.mk <$> defaulted e ["facts"] (list Fact.ofPart) []
      <*> defaulted e ["dependencies"] (list Declaration.ofPart) []

/-- A boundary. -/
def Boundary.ofPart : Part → Checked Boundary :=
  model "AnalyzerConfig" fun e =>
    Boundary.mk <$> defaulted e ["internalDomains", "internal_domains"] (list text) []
      <*> defaulted e ["internalEnvVars", "internal_env_vars"] (list text) []
      <*> defaulted e ["externalEnvVars", "external_env_vars"] (list text) []

end ServiceContracts
