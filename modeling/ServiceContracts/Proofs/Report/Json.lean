import ServiceContracts.Proofs.Document.Json.Tree
import ServiceContracts.Proofs.Schema.Field
import ServiceContracts.Report.Json
import ServiceContracts.Schema.Findings

/-!
# The JSON report loses nothing

* `ofPart_issueTree`, `ofPart_conflictTree`, `ofPart_diagnosticTree` : each finding is what its tree
  is checked to be;
* `read_json` : the report, at any indentation, is read and checked to be the findings.
-/

namespace ServiceContracts.Report
open Document Document.Json Number Schema

/-! ## What the trees stand for -/

theorem optionalText_optional (s : Option String) :
    optionalText (.ofValue (optional s).value) = .ok s := by
  cases s <;> rfl

theorem confidence_name (c : Confidence) :
    Confidence.ofPart (.ofValue (Tree.text c.name).value) = .ok c := by
  apply choice_value
  cases c <;> decide

theorem severity_name (s : Severity) :
    Severity.ofPart (.ofValue (Tree.text s.name).value) = .ok s := by
  apply choice_value
  cases s <;> decide

theorem list_texts (texts : List String) :
    list text (.ofValue (Tree.list (texts.map .text)).value) = .ok texts :=
  list_value text_value texts

theorem ofPart_issueTree (i : Issue) : Issue.ofPart (.ofValue (issueTree i).value) = .ok i := by
  cases i with
  | missing m =>
    refine tagged_object rfl rfl ?_
    rw [MissingEndpoint.ofEntries, required_of_lookup rfl (text_value m.method),
      required_of_lookup rfl (text_value m.path), required_of_lookup rfl (text_value m.rawUrl),
      required_of_lookup rfl (text_value m.callerRepo),
      defaulted_of_lookup rfl (text_value m.location),
      defaulted_of_lookup rfl (confidence_name m.confidence)]
    rfl
  | orphaned o =>
    refine tagged_object rfl rfl ?_
    rw [OrphanedEndpoint.ofEntries, required_of_lookup rfl (text_value o.method),
      required_of_lookup rfl (text_value o.fullPath), required_of_lookup rfl (text_value o.repo),
      defaulted_of_lookup rfl (text_value o.owner),
      defaulted_of_lookup rfl (optionalText_optional o.handler),
      defaulted_of_lookup rfl (text_value o.location),
      defaulted_of_lookup rfl (confidence_name o.confidence)]
    rfl
  | mismatch m =>
    refine tagged_object rfl rfl ?_
    rw [MethodMismatch.ofEntries, required_of_lookup rfl (text_value m.path),
      required_of_lookup rfl (text_value m.calledMethod),
      required_of_lookup rfl (list_texts m.supportedMethods),
      required_of_lookup rfl (text_value m.rawUrl),
      required_of_lookup rfl (text_value m.callerRepo),
      defaulted_of_lookup rfl (text_value m.location),
      defaulted_of_lookup rfl (confidence_name m.confidence)]
    rfl
  | suggestion s =>
    refine tagged_object rfl rfl ?_
    rw [VariableSuggestion.ofEntries, required_of_lookup rfl (text_value s.method),
      required_of_lookup rfl (text_value s.rawUrl), required_of_lookup rfl (text_value s.envVar),
      defaulted_of_lookup rfl (optionalText_optional s.path),
      required_of_lookup rfl (text_value s.callerRepo),
      defaulted_of_lookup rfl (text_value s.location),
      defaulted_of_lookup rfl (confidence_name s.confidence)]
    rfl

theorem ofPart_versionTree (v : RepoVersion) :
    RepoVersion.ofPart (.ofValue (versionTree v).value) = .ok v := by
  rw [RepoVersion.ofPart, versionTree, model_object, required_of_lookup rfl (text_value v.repo),
    required_of_lookup rfl (text_value v.version), defaulted_of_lookup rfl (text_value v.source)]
  rfl

theorem ofPart_conflictTree (c : Conflict) :
    Conflict.ofPart (.ofValue (conflictTree c).value) = .ok c := by
  rw [Conflict.ofPart, conflictTree, model_object, required_of_lookup rfl (text_value c.package),
    required_of_lookup rfl (list_value ofPart_versionTree c.versions),
    required_of_lookup rfl (severity_name c.severity),
    required_of_lookup rfl (text_value c.description)]
  rfl

theorem ofPart_diagnosticTree (d : Diagnostic) :
    Diagnostic.ofPart (.ofValue (diagnosticTree d).value) = .ok d := by
  rw [Diagnostic.ofPart, diagnosticTree, model_object, required_of_lookup rfl (text_value d.repo),
    required_of_lookup rfl (text_value d.kind), required_of_lookup rfl (list_texts d.nodes),
    required_of_lookup rfl (text_value d.message)]
  rfl

theorem ofPart_summaryTree (s : Summary) : Summary.ofPart (.ofValue
    (Tree.object [("endpointCount", .count s.endpointCount),
      ("callCount", .count s.callCount)]).value) = .ok s := by
  rw [Summary.ofPart, model_object, defaulted_of_lookup rfl (integer_value s.endpointCount),
    defaulted_of_lookup rfl (integer_value s.callCount)]
  rfl

theorem ofPart_tree (f : Findings) : Findings.ofPart (.ofValue (tree f).value) = .ok f := by
  rw [Findings.ofPart, tree, model_object,
    defaulted_of_lookup rfl (list_value ofPart_issueTree f.issues),
    defaulted_of_lookup rfl (list_value ofPart_conflictTree f.conflicts),
    defaulted_of_lookup rfl (ofPart_summaryTree f.summary),
    defaulted_of_lookup rfl (list_value ofPart_diagnosticTree f.diagnostics)]
  rfl

/-! ## How deep the trees are -/

section Fits
variable {depth : Nat}

theorem fits_optional (s : Option String) : (optional s).Fits depth := by
  cases s with
  | none => exact .null
  | some s => exact .text

theorem fits_list {α : Type} {tree : α → Tree} (h : ∀ a, (tree a).Fits depth) (items : List α) :
    (Tree.list (items.map tree)).Fits (depth + 1) := by
  refine .list fun t ht => ?_
  obtain ⟨a, -, rfl⟩ := List.mem_map.mp ht
  exact h a

theorem fits_texts (texts : List String) : (Tree.list (texts.map .text)).Fits (depth + 1) :=
  fits_list (fun _ => .text) texts

theorem fits_issueTree (i : Issue) : (issueTree i).Fits (depth + 2) := by
  cases i with
  | missing m => exact .object (by simp) (by simp [Tree.Fits.text])
  | orphaned o => exact .object (by simp) (by simp [Tree.Fits.text, fits_optional])
  | mismatch m => exact .object (by simp) (by simp [Tree.Fits.text, fits_texts])
  | suggestion s => exact .object (by simp) (by simp [Tree.Fits.text, fits_optional])

theorem fits_versionTree (v : RepoVersion) : (versionTree v).Fits (depth + 1) :=
  .object (by simp) (by simp [Tree.Fits.text])

theorem fits_conflictTree (c : Conflict) : (conflictTree c).Fits (depth + 3) :=
  .object (by simp) (by simp [Tree.Fits.text, fits_list fits_versionTree])

theorem fits_diagnosticTree (d : Diagnostic) : (diagnosticTree d).Fits (depth + 2) :=
  .object (by simp) (by simp [Tree.Fits.text, fits_texts])

theorem fits_tree {f : Findings} (hendpoints : IsShort f.summary.endpointCount)
    (hcalls : IsShort f.summary.callCount) : (tree f).Fits (depth + 5) := by
  have hsummary : (Tree.object [("endpointCount", .count f.summary.endpointCount),
      ("callCount", .count f.summary.callCount)]).Fits (depth + 4) :=
    .object (by simp) (by simp [Tree.Fits.count, hendpoints, hcalls])
  refine .object (by simp) ?_
  simp [fits_list fits_issueTree, fits_list fits_conflictTree, fits_list fits_diagnosticTree,
    hsummary]

end Fits

/-! ## The report -/

/-- What is written with any indentation is read and checked to be the findings. -/
theorem read_json (f : Findings) (indent : Option Nat)
    (hendpoints : IsShort f.summary.endpointCount) (hcalls : IsShort f.summary.callCount) :
    ∃ v, Document.Json.read (json f indent) = .ok v ∧ Findings.ofPart (.ofValue v) = .ok f :=
  ⟨(tree f).value, read_write (fits_tree hendpoints hcalls) indent, ofPart_tree f⟩

/-- An issue of each kind, a conflict and a diagnostic, with texts that have to be escaped. -/
def everyKind : Findings where
  issues := [
    .missing { method := "GET", path := "/a", rawUrl := "`/a?q=\"\\`", callerRepo := "web",
               location := "src/a.ts:3", confidence := .low },
    .orphaned { method := "POST", fullPath := "/b", repo := "api" },
    .mismatch { path := "/c", calledMethod := "PUT", supportedMethods := ["GET", "PATCH"],
                rawUrl := "/c#\t\n\x01", callerRepo := "web" },
    .suggestion { method := "GET", rawUrl := "", envVar := "BASE", callerRepo := "wéb" }]
  conflicts := [
    { package := "left-pad", versions := [{ repo := "a", version := "1.0.0" },
        { repo := "b", version := "2.0.0", source := "b/package.json" }],
      severity := .critical, description := "1.0.0, 2.0.0" }]
  summary := { endpointCount := 2, callCount := -7 }
  diagnostics := [{ repo := "api", kind := "cycle", nodes := ["x", "y"], message := "x -> y -> x" }]

theorem read_json_everyKind : IsShort everyKind.summary.endpointCount ∧
    IsShort everyKind.summary.callCount ∧
    ∃ v, Document.Json.read (json everyKind (some 0)) = .ok v ∧
      Findings.ofPart (.ofValue v) = .ok everyKind :=
  ⟨by decide, by decide, read_json everyKind (some 0) (by decide) (by decide)⟩

end ServiceContracts.Report
