import ServiceContracts.Proofs.Report.Frame

/-!
# Counting in the lines of the Markdown report

The line of a finding is made of texts of the finding with fixed marks between them. A count that
these marks neither add to nor hide from is the sum over the texts; in a row, the bars may be
counted besides.

* `Finding.texts` : the texts that a finding is shown with;
* `IsTally` : such a count;
* `IsTally.line` : the count in the line of a finding.
-/

namespace ServiceContracts.Report

/-- The texts that a finding is shown with, in order. -/
def Finding.texts : Finding → List String
  | diagnostic d => [d.repo, d.kind, d.message] ++ d.nodes
  | issue (.mismatch m) =>
    [m.path, m.calledMethod] ++ m.supportedMethods ++ [m.callerRepo, m.location]
  | issue (.missing m) => [m.method, m.path, m.callerRepo, m.location]
  | issue (.orphaned o) => [o.method, o.fullPath, o.repo, o.location]
  | issue (.suggestion s) => [s.method, s.envVar, suggestedPath s, s.callerRepo, s.location]
  | conflict c => c.package :: c.versions.flatMap fun v => [v.version, v.repo]

/-- The marks between the texts in a line, besides the bars of a row. -/
def marks : List String :=
  ["`", " `", ", ", " (", ")", "): ", " [", "[", "]", "**", " using ", " in "]

/-- The words that a report has for confidence and severity. -/
def words : List String := ["high", "low", "critical", "warning", "info"]

/-- A count in texts to which the marks of a report do not add, but for the bars of a row, and from
which they do not hide. -/
structure IsTally (τ : String → Nat) (bar : Nat) : Prop where
  empty : τ "" = 0
  word : ∀ w ∈ words, τ w = 0
  mark : ∀ w ∈ marks, ∀ a b, τ (a ++ w ++ b) = τ a + τ b
  bullet : ∀ a, τ ("  - " ++ a) = τ a
  first : ∀ a, τ ("| " ++ a) = bar + τ a
  next : ∀ a b, τ (a ++ " | " ++ b) = τ a + bar + τ b
  last : ∀ a, τ (a ++ " |") = τ a + bar

namespace IsTally
variable {τ : String → Nat} {bar : Nat} (h : IsTally τ bar)
include h

theorem mark_left {w : String} (hw : w ∈ marks) (a : String) : τ (w ++ a) = τ a := by
  have := h.mark w hw "" a
  rwa [String.empty_append, h.empty, Nat.zero_add] at this

theorem mark_right {w : String} (hw : w ∈ marks) (a : String) : τ (a ++ w) = τ a := by
  have := h.mark w hw a ""
  rwa [String.append_empty, h.empty, Nat.add_zero] at this

theorem code (s : String) : τ (Report.code s) = τ s := by
  rw [Report.code, h.mark_right (by decide), h.mark_left (by decide)]

theorem bold (s : String) : τ (Report.bold s) = τ s := by
  rw [Report.bold, h.mark_right (by decide), h.mark_left (by decide)]

theorem origin (repo location : String) : τ (origin repo location) = τ repo + τ location := by
  rw [Report.origin]
  split
  · next hempty => rw [String.isEmpty_iff.mp hempty, h.empty, Nat.add_zero]
  · have hmarks : repo ++ " " ++ ("`" ++ location ++ "`") = repo ++ " `" ++ location ++ "`" := by
      have hmark : " `" = " " ++ "`" := rfl
      rw [hmark]
      simp only [String.append_assoc]
    rw [Report.code, hmarks, h.mark_right (by decide), h.mark _ (by decide)]

theorem listed (cells : List String) : τ (", ".intercalate cells) = (cells.map τ).sum := by
  induction cells with
  | nil => exact h.empty
  | cons cell cells ih =>
    cases cells with
    | nil => simp
    | cons cell' cells =>
      rw [String.intercalate_cons_cons, h.mark _ (by decide), ih, ← List.sum_cons, ← List.map_cons]

theorem codes (texts : List String) : τ (", ".intercalate (texts.map Report.code)) =
    (texts.map τ).sum := by
  rw [h.listed, List.map_map]
  simp only [Function.comp_def, h.code]

/-- A row has a bar before, between and behind its cells. -/
theorem row {cells : List String} (hcells : cells ≠ []) :
    τ (row cells) = bar * (cells.length + 1) + (cells.map τ).sum := by
  have hbetween : τ (" | ".intercalate cells) + bar = bar * cells.length + (cells.map τ).sum := by
    induction cells with
    | nil => exact absurd rfl hcells
    | cons cell cells ih =>
      cases cells with
      | nil => simp [Nat.add_comm]
      | cons cell' cells =>
        have := ih (by simp)
        rw [String.intercalate_cons_cons, h.next, List.map_cons, List.sum_cons, List.length_cons]
        linarith
  rw [Report.row, h.last, h.first]
  linarith

theorem confidence (c : Confidence) : τ c.name = 0 := by
  cases c <;> exact h.word _ (by decide)

theorem severity (s : Severity) : τ s.name = 0 := by
  cases s <;> exact h.word _ (by decide)

theorem diagnosticLine (d : Diagnostic) :
    τ (diagnosticLine d) = τ d.repo + τ d.kind + τ d.message + (d.nodes.map τ).sum := by
  rw [Report.diagnosticLine, h.mark_right (by decide), h.mark _ (by decide), h.mark _ (by decide),
    h.mark _ (by decide), h.bullet, h.bold, h.codes]

theorem suggestionLine (s : VariableSuggestion) : τ (suggestionLine s) =
    τ s.method + τ s.envVar + τ (suggestedPath s) + (τ s.callerRepo + τ s.location) := by
  rw [Report.suggestionLine, h.mark_right (by decide), h.mark _ (by decide), h.mark _ (by decide),
    h.mark _ (by decide), h.bullet, h.bold, h.mark_right (by decide), h.mark_left (by decide),
    h.code, h.code, h.origin]

theorem versions (vs : List RepoVersion) :
    τ (", ".intercalate (vs.map fun v => Report.code v.version ++ " (" ++ v.repo ++ ")")) =
      ((vs.flatMap fun v => [v.version, v.repo]).map τ).sum := by
  rw [h.listed, List.map_map]
  induction vs with
  | nil => rfl
  | cons v vs ih =>
    rw [List.map_cons, List.sum_cons, ih, List.flatMap_cons, List.map_append, List.sum_append]
    simp only [Function.comp_apply, h.mark_right (by decide : ")" ∈ marks),
      h.mark _ (by decide : " (" ∈ marks), h.code, List.map_cons, List.map_nil, List.sum_cons,
      List.sum_nil, Nat.add_zero]

/-- What is counted in the line of a finding is counted in its texts, but for the bars of a row. -/
theorem line (x : Finding) : τ x.line =
    bar * (x.kind.columns.elim 0 fun names => names.length + 1) + (x.texts.map τ).sum := by
  cases x with
  | diagnostic d =>
    simp only [Finding.line, h.diagnosticLine, Finding.kind, Kind.columns, Finding.texts,
      Option.elim_none, List.map_append, List.map_cons, List.map_nil, List.sum_append,
      List.sum_cons, List.sum_nil]
    ring
  | conflict c =>
    simp only [Finding.line, conflictLine, h.row (List.cons_ne_nil _ _), Finding.kind, Kind.columns,
      Finding.texts, Option.elim_some, List.map_cons, List.map_nil, List.sum_cons, List.sum_nil,
      h.code, h.severity, h.versions, List.length_cons, List.length_nil]
    ring
  | issue i =>
    cases i with
    | missing m =>
      simp only [Finding.line, missingLine, h.row (List.cons_ne_nil _ _), Finding.kind,
        Kind.columns, Finding.texts, Option.elim_some, List.map_cons, List.map_nil, List.sum_cons,
        List.sum_nil, h.code, h.origin, h.confidence, List.length_cons, List.length_nil]
      ring
    | orphaned o =>
      simp only [Finding.line, orphanedLine, h.row (List.cons_ne_nil _ _), Finding.kind,
        Kind.columns, Finding.texts, Option.elim_some, List.map_cons, List.map_nil, List.sum_cons,
        List.sum_nil, h.code, h.origin, h.confidence, List.length_cons, List.length_nil]
      ring
    | mismatch m =>
      simp only [Finding.line, mismatchLine, h.row (List.cons_ne_nil _ _), Finding.kind,
        Kind.columns, Finding.texts, Option.elim_some, List.map_append, List.map_cons,
        List.map_nil, List.sum_append, List.sum_cons, List.sum_nil, h.code, h.codes, h.origin,
        List.length_cons, List.length_nil]
      ring
    | suggestion s =>
      simp only [Finding.line, h.suggestionLine, Finding.kind, Kind.columns, Finding.texts,
        Option.elim_none, List.map_cons, List.map_nil, List.sum_cons, List.sum_nil]
      ring

end IsTally

end ServiceContracts.Report
