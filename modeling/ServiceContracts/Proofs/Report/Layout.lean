import Mathlib.Data.List.Perm.Basic
import ServiceContracts.Distinct
import ServiceContracts.Report.Markdown

/-!
# The Markdown report, line by line

A report is a list of lines. Some of them frame it: they tell only how many findings there are. Each
of the other ones shows a finding, in a row or a bullet; the findings of one kind stand together, in
the section of their topic.

* `Finding`, `Kind`, `Topic` : what is shown, and where;
* `shown` : the findings of a kind in the order of the report;
* `partLines`, `sectionLines`, `layout` : the lines of a part, of a section and of the whole report;
* `HasShortCounts`, `markdown_of_hasShortCounts` : the report is made of these lines, unless a
  number in the first ones has too many digits.
-/

namespace ServiceContracts.Report

/-! ## Lines -/

theorem lines_append {ls ms : List String} (hls : ls ≠ []) (hms : ms ≠ []) :
    lines (ls ++ ms) = lines ls ++ "\n" ++ lines ms :=
  String.intercalate_append_of_ne_nil hls hms

/-- Blocks of lines are put together as their texts are. -/
theorem lines_intercalate {between : List String} (hbetween : between ≠ [])
    {blocks : List (List String)} (hblocks : ∀ block ∈ blocks, block ≠ []) :
    lines (between.intercalate blocks) =
      ("\n" ++ lines between ++ "\n").intercalate (blocks.map lines) := by
  induction blocks with
  | nil => rfl
  | cons block blocks ih =>
    cases blocks with
    | nil => simp [List.intercalate]
    | cons next blocks =>
      obtain ⟨hblock, hrest⟩ := List.forall_mem_cons.mp hblocks
      have hne : between.intercalate (next :: blocks) ≠ [] := by
        have hnext : next ≠ [] := hrest next List.mem_cons_self
        cases blocks with
        | nil => simpa [List.intercalate] using hnext
        | cons => simp [List.intercalate_cons_cons, hnext]
      rw [List.intercalate_cons_cons, List.append_assoc, lines_append hblock (by simp [hbetween]),
        lines_append hbetween hne, ih hrest, List.map_cons, List.map_cons, List.map_cons,
        String.intercalate_cons_cons]
      simp only [String.append_assoc]

/-! ## What is shown -/

/-- A finding of any kind. -/
inductive Finding where
  | diagnostic (d : Diagnostic)
  | issue (i : Issue)
  | conflict (c : Conflict)

/-- The kinds of findings, in the order of a report. -/
inductive Kind where
  | diagnostic
  | mismatch
  | missing
  | orphaned
  | conflict
  | suggestion
deriving DecidableEq

/-- What the sections of a report are about, in their order. -/
inductive Topic where
  | structural
  | mismatches
  | connectivity
  | dependencies
  | configuration
deriving DecidableEq

namespace Finding

/-- The row or the bullet of a finding. -/
def line : Finding → String
  | diagnostic d => diagnosticLine d
  | issue (.mismatch m) => mismatchLine m
  | issue (.missing m) => missingLine m
  | issue (.orphaned o) => orphanedLine o
  | issue (.suggestion s) => suggestionLine s
  | conflict c => conflictLine c

def kind : Finding → Kind
  | diagnostic _ => .diagnostic
  | issue (.mismatch _) => .mismatch
  | issue (.missing _) => .missing
  | issue (.orphaned _) => .orphaned
  | issue (.suggestion _) => .suggestion
  | conflict _ => .conflict

end Finding

/-- The topic of the section that shows findings of a kind. -/
def Kind.topic : Kind → Topic
  | diagnostic => .structural
  | mismatch => .mismatches
  | missing | orphaned => .connectivity
  | conflict => .dependencies
  | suggestion => .configuration

/-- All findings, as they were found. -/
def findings (f : Findings) : List Finding :=
  f.diagnostics.map .diagnostic ++ f.issues.map .issue ++ f.conflicts.map .conflict

/-- The findings of a kind in the order of the report. -/
def shown (f : Findings) : Kind → List Finding
  | .diagnostic => f.diagnostics.map .diagnostic
  | .mismatch => (f.issues.filterMap Issue.mismatch?).map fun m => .issue (.mismatch m)
  | .missing => (f.issues.filterMap Issue.missing?).map fun m => .issue (.missing m)
  | .orphaned => (f.issues.filterMap Issue.orphaned?).map fun o => .issue (.orphaned o)
  | .conflict => (sortedConflicts f.conflicts).map .conflict
  | .suggestion => (f.issues.filterMap Issue.suggestion?).map fun s => .issue (.suggestion s)

namespace Kind

/-- The kinds in the order of the report. -/
def all : List Kind := [diagnostic, mismatch, missing, orphaned, conflict, suggestion]

/-- The heading above the findings of a kind, if there are several kinds in the section. -/
def heading (n : Nat) : Kind → List String
  | missing =>
    ["#### " ++ toString n ++ " " ++ "Missing Endpoint" ++ (if n = 1 then "" else "s"), ""]
  | orphaned =>
    ["#### " ++ toString n ++ " " ++ "Orphaned Endpoint" ++ (if n = 1 then "" else "s"), ""]
  | diagnostic | mismatch | conflict | suggestion => []

/-- The columns of the table that shows findings of a kind; the other kinds have bullets. -/
def columns : Kind → Option (List String)
  | mismatch => some ["Path", "Called With", "Supported", "Caller"]
  | missing => some ["Method", "Path", "Caller", "Confidence"]
  | orphaned => some ["Method", "Path", "Defined In", "Confidence"]
  | conflict => some ["Package", "Severity", "Versions"]
  | diagnostic | suggestion => none

/-- The lines behind the findings of a kind. -/
def closing : Kind → List String
  | missing => [""]
  | diagnostic | mismatch | orphaned | conflict | suggestion => []

end Kind

namespace Topic

/-- The topics in the order of the report. -/
def all : List Topic := [structural, mismatches, connectivity, dependencies, configuration]

/-- The kinds of findings in the section of a topic, in order. -/
def kinds : Topic → List Kind
  | structural => [.diagnostic]
  | mismatches => [.mismatch]
  | connectivity => [.missing, .orphaned]
  | dependencies => [.conflict]
  | configuration => [.suggestion]

/-- The title of a section with `n` findings. -/
def title (n : Nat) : Topic → String
  | structural => toString n ++ " Structural Errors"
  | mismatches => toString n ++ " Critical: Method Mismatches"
  | connectivity => toString n ++ " Connectivity Issues"
  | dependencies => toString n ++ " Dependency Conflicts"
  | configuration => toString n ++ " Configuration Suggestions"

/-- What the findings of a section are about. -/
def note : Topic → String
  | structural =>
    "> These repositories could not be analyzed because their router mounts are inconsistent."
  | mismatches =>
    "> A call uses an HTTP method the endpoint does not support. These are direct " ++
      "conflicts between consumer and producer and should be addressed first."
  | connectivity =>
    "> These endpoints are either defined but never used (orphaned) or called but never " ++
      "defined (missing). This could be dead code or a misconfigured route."
  | dependencies => "> These packages are declared at different versions across repositories."
  | configuration =>
    "> These API calls build their URL from environment variables that are not configured. " ++
      "Add them to `internalEnvVars` or `externalEnvVars` to enable full analysis."

end Topic

/-! ## The lines of a report -/

/-- The lines about the findings of a kind; a kind without findings has none. -/
def partLines (k : Kind) (xs : List Finding) : List String :=
  if xs.isEmpty then []
  else k.heading xs.length ++ (k.columns.elim [] tableHead ++ (xs.map Finding.line ++ k.closing))

/-- The findings in the section of a topic. -/
def shownIn (f : Findings) (t : Topic) : List Finding := t.kinds.flatMap (shown f)

/-- The lines of a section that can be folded. -/
def framed (title : String) (body : List String) : List String :=
  ["<details>", "<summary>", "<strong>" ++ title ++ "</strong>", "</summary>", ""] ++ body ++
    ["", "</details>"]

/-- The lines of the section of a topic. -/
def sectionLines (f : Findings) (t : Topic) : List String :=
  framed (t.title (shownIn f t).length)
    ([t.note, ""] ++ t.kinds.flatMap fun k => partLines k (shown f k))

/-- The topics with findings. -/
def topics (f : Findings) : List Topic := Topic.all.filter fun t => !(shownIn f t).isEmpty

/-- The lines behind the first ones: those without findings, or totals and sections. -/
def layoutBody (f : Findings) : List String :=
  if f.count = 0 then ["**No API inconsistencies detected.**"]
  else [totals f, ""] ++ ["", "<hr>", ""].intercalate ((topics f).map (sectionLines f))

/-- The first lines of a report, whatever numbers there are in them. -/
def openingLines (f : Findings) : List String :=
  [startMarker, countMarker f.count, "### API Contract Analysis Results", "",
    "Analyzed " ++ bold (toString f.summary.endpointCount ++ " endpoints") ++ " and " ++
      bold (toString f.summary.callCount ++ " API calls") ++ " across all repositories.", ""]

/-- The lines of a report. -/
def layout (f : Findings) : List String := openingLines f ++ layoutBody f ++ ["", endMarker, ""]

/-- The text of a report. -/
def page (f : Findings) : String := lines (layout f)

/-! ## The findings of each kind -/

section Kinds
variable {f : Findings} {k : Kind} {t : Topic} {x : Finding}

theorem sortedConflicts_perm (cs : List Conflict) : (sortedConflicts cs).Perm cs :=
  List.mergeSort_perm _ _

/-- The issues of a kind, picked out one way or the other. -/
theorem map_filterMap_eq_filter {α : Type} {get? : Issue → Option α} {make : α → Issue}
    (h : ∀ i, (get? i).map make = if (Finding.issue i).kind = k then some i else none)
    (issues : List Issue) : ((issues.filterMap get?).map fun a => Finding.issue (make a)) =
      (issues.map .issue).filter fun x => x.kind = k := by
  induction issues with
  | nil => rfl
  | cons i issues ih =>
    have hi := h i
    rw [List.map_cons, List.filter_cons]
    by_cases hkind : (Finding.issue i).kind = k
    · rw [if_pos hkind] at hi
      obtain ⟨a, ha, rfl⟩ := Option.map_eq_some_iff.mp hi
      rw [List.filterMap_cons_some ha, List.map_cons, if_pos (decide_eq_true hkind), ih]
    · rw [if_neg hkind, Option.map_eq_none_iff] at hi
      rw [List.filterMap_cons_none hi, if_neg (by simpa using hkind), ih]

theorem filter_issues_eq_nil (h : ∀ i, (Finding.issue i).kind ≠ k) (issues : List Issue) :
    ((issues.map .issue).filter fun x : Finding => x.kind = k) = [] := by
  rw [List.filter_eq_nil_iff, List.forall_mem_map]
  intro i _
  simpa using h i

theorem filter_findings (f : Findings) (k : Kind) : ((findings f).filter fun x => x.kind = k) =
    (if k = .diagnostic then f.diagnostics.map .diagnostic else []) ++
      ((f.issues.map .issue).filter fun x => x.kind = k) ++
      (if k = .conflict then f.conflicts.map .conflict else []) := by
  rw [findings, List.filter_append, List.filter_append]
  congr 2
  · cases k <;> simp [Finding.kind]
  · cases k <;> simp [Finding.kind]

/-- Findings other than conflicts are shown in the order in which they were found. -/
theorem shown_eq_filter (hk : k ≠ .conflict) :
    shown f k = (findings f).filter fun x => x.kind = k := by
  rw [filter_findings, if_neg hk, List.append_nil]
  cases k with
  | conflict => exact absurd rfl hk
  | diagnostic =>
    rw [filter_issues_eq_nil fun i => by cases i <;> simp [Finding.kind], if_pos rfl,
      List.append_nil, shown]
  | mismatch => exact map_filterMap_eq_filter (fun i => by cases i <;> rfl) f.issues
  | missing => exact map_filterMap_eq_filter (fun i => by cases i <;> rfl) f.issues
  | orphaned => exact map_filterMap_eq_filter (fun i => by cases i <;> rfl) f.issues
  | suggestion => exact map_filterMap_eq_filter (fun i => by cases i <;> rfl) f.issues

theorem shown_perm (f : Findings) (k : Kind) :
    (shown f k).Perm ((findings f).filter fun x => x.kind = k) := by
  by_cases hk : k = .conflict
  · subst hk
    rw [filter_findings, filter_issues_eq_nil fun i => by cases i <;> simp [Finding.kind],
      if_neg (by decide), if_pos rfl]
    exact (sortedConflicts_perm f.conflicts).map _
  · rw [shown_eq_filter hk]

theorem mem_shown : x ∈ shown f k ↔ x ∈ findings f ∧ x.kind = k := by
  rw [(shown_perm f k).mem_iff, List.mem_filter, decide_eq_true_iff]

theorem shown_all_perm (f : Findings) : (Kind.all.flatMap (shown f)).Perm (findings f) := by
  have hgroups : (Kind.all.flatMap (shown f)).Perm
      (Kind.all.flatMap fun k => (findings f).filter fun x => x.kind = k) :=
    List.Perm.flatMap_left _ fun k _ => shown_perm f k
  have hall : ((findings f).filter fun x => x.kind ∈ Kind.all) = findings f := by
    rw [List.filter_eq_self]
    intro x _
    cases x.kind <;> decide
  have hkeys : (Kind.all.flatMap fun k => (findings f).filter fun x => x.kind = k).Perm
      ((findings f).filter fun x => x.kind ∈ Kind.all) := flatMap_filter_perm (by decide)
  rw [hall] at hkeys
  exact hgroups.trans hkeys

theorem mem_kinds : k ∈ t.kinds ↔ k.topic = t := by
  cases t <;> cases k <;> decide

theorem mem_shownIn : x ∈ shownIn f t ↔ x ∈ findings f ∧ x.kind.topic = t := by
  simp only [shownIn, List.mem_flatMap, mem_shown, mem_kinds]
  grind

/-- A section stands just if there is a finding on its topic. -/
theorem mem_topics : t ∈ topics f ↔ ∃ x ∈ findings f, x.kind.topic = t := by
  have hall : t ∈ Topic.all := by cases t <;> decide
  rw [topics, List.mem_filter, Bool.not_eq_true', List.isEmpty_eq_false_iff_exists_mem]
  simp only [hall, true_and, mem_shownIn]

end Kinds

/-! ## The report is made of these lines -/

section
variable {f : Findings}

theorem details_eq (title : String) (body : List String) :
    details title body = lines (framed title body) := rfl

theorem sectionIf_eq {t : Topic} {present : Bool} {text : String}
    (hpresent : present = !(shownIn f t).isEmpty)
    (htext : shownIn f t ≠ [] → text = lines (sectionLines f t)) :
    sectionIf present text =
      ([t].filter fun t => !(shownIn f t).isEmpty).map fun t => lines (sectionLines f t) := by
  rw [hpresent, sectionIf, List.filter_singleton]
  cases hempty : (shownIn f t).isEmpty with
  | true => rfl
  | false => simp [htext (by simpa using hempty)]

/-- A section about findings of one kind only. -/
theorem details_eq_sectionLines {t : Topic} {k : Kind} {title : String} {body : List String}
    (hkinds : t.kinds = [k]) (htitle : title = t.title (shown f k).length)
    (hbody : shown f k ≠ [] → body = [t.note, ""] ++ partLines k (shown f k))
    (hne : shownIn f t ≠ []) : details title body = lines (sectionLines f t) := by
  have hshown : shownIn f t = shown f k := by rw [shownIn, hkinds, List.flatMap_singleton]
  rw [hshown] at hne
  rw [details_eq, sectionLines, hshown, hkinds, List.flatMap_singleton, htitle, hbody hne]

theorem partLines_of_ne {k : Kind} {xs : List Finding} (h : xs ≠ []) : partLines k xs =
    k.heading xs.length ++ (k.columns.elim [] tableHead ++ (xs.map Finding.line ++ k.closing)) := by
  rw [partLines, if_neg (by simpa using h)]

theorem structuralSection_eq : shownIn f .structural ≠ [] →
    structuralSection f.diagnostics = lines (sectionLines f .structural) := by
  refine details_eq_sectionLines (k := .diagnostic) rfl ?_ fun h => ?_
  · rw [shown, List.length_map, Topic.title]
  · rw [partLines_of_ne h, shown, List.map_map, Kind.closing, List.append_nil]
    rfl

theorem mismatchSection_eq : shownIn f .mismatches ≠ [] →
    mismatchSection (f.issues.filterMap Issue.mismatch?) = lines (sectionLines f .mismatches) := by
  refine details_eq_sectionLines (k := .mismatch) rfl ?_ fun h => ?_
  · rw [shown, List.length_map, Topic.title]
  · rw [partLines_of_ne h, shown, List.map_map, Kind.closing, List.append_nil]
    rfl

theorem dependencySection_eq : shownIn f .dependencies ≠ [] →
    dependencySection (sortedConflicts f.conflicts) = lines (sectionLines f .dependencies) := by
  refine details_eq_sectionLines (k := .conflict) rfl ?_ fun h => ?_
  · rw [shown, List.length_map, Topic.title]
  · rw [partLines_of_ne h, shown, List.map_map, Kind.closing, List.append_nil]
    rfl

theorem configurationSection_eq : shownIn f .configuration ≠ [] →
    configurationSection (f.issues.filterMap Issue.suggestion?) =
      lines (sectionLines f .configuration) := by
  refine details_eq_sectionLines (k := .suggestion) rfl ?_ fun h => ?_
  · rw [shown, List.length_map, Topic.title]
  · rw [partLines_of_ne h, shown, List.map_map, Kind.closing, List.append_nil]
    rfl

theorem shownIn_connectivity :
    shownIn f .connectivity = shown f .missing ++ shown f .orphaned := by
  simp [shownIn, Topic.kinds]

theorem missingPart_eq : missingPart (f.issues.filterMap Issue.missing?) =
    partLines .missing (shown f .missing) := by
  rw [missingPart, partLines, shown, List.isEmpty_map, List.length_map, List.map_map]
  split
  · rfl
  · rw [partHead, List.append_assoc, List.append_assoc]
    rfl

theorem orphanedPart_eq : orphanedPart (f.issues.filterMap Issue.orphaned?) =
    partLines .orphaned (shown f .orphaned) := by
  rw [orphanedPart, partLines, shown, List.isEmpty_map, List.length_map, List.map_map]
  split
  · rfl
  · rw [partHead, List.append_assoc, Kind.closing, List.append_nil]
    rfl

/-- The section of the endpoints stands with either part, or both. -/
theorem connectivitySection_eq : connectivitySection (f.issues.filterMap Issue.missing?)
    (f.issues.filterMap Issue.orphaned?) = lines (sectionLines f .connectivity) := by
  have hparts : (Topic.connectivity.kinds.flatMap fun k => partLines k (shown f k)) =
      partLines .missing (shown f .missing) ++ partLines .orphaned (shown f .orphaned) := by
    simp [Topic.kinds]
  rw [connectivitySection, details_eq, sectionLines, hparts, shownIn_connectivity,
    List.length_append, shown, shown, List.length_map, List.length_map, Topic.title, missingPart_eq,
    orphanedPart_eq, List.append_assoc]
  rfl

theorem sections_eq : sections f = (topics f).map fun t => lines (sectionLines f t) := by
  have hall : Topic.all = [.structural] ++ [.mismatches] ++ [.connectivity] ++ [.dependencies] ++
      [.configuration] := rfl
  have hdiagnostics : (!f.diagnostics.isEmpty) = !(shownIn f .structural).isEmpty := by
    simp [shownIn, Topic.kinds, shown]
  have hmismatches : (!(f.issues.filterMap Issue.mismatch?).isEmpty) =
      !(shownIn f .mismatches).isEmpty := by
    simp [shownIn, Topic.kinds, shown]
  have hendpoints : (!(f.issues.filterMap Issue.missing?).isEmpty ||
      !(f.issues.filterMap Issue.orphaned?).isEmpty) = !(shownIn f .connectivity).isEmpty := by
    rw [shownIn_connectivity, shown, shown]
    cases f.issues.filterMap Issue.missing? <;> simp
  have hconflicts : (!f.conflicts.isEmpty) = !(shownIn f .dependencies).isEmpty := by
    simp [shownIn, Topic.kinds, shown, (sortedConflicts_perm f.conflicts).isEmpty_eq]
  have hsuggestions : (!(f.issues.filterMap Issue.suggestion?).isEmpty) =
      !(shownIn f .configuration).isEmpty := by
    simp [shownIn, Topic.kinds, shown]
  rw [sections, topics, hall, sectionIf_eq hdiagnostics structuralSection_eq,
    sectionIf_eq hmismatches mismatchSection_eq,
    sectionIf_eq hendpoints fun _ => connectivitySection_eq,
    sectionIf_eq hconflicts dependencySection_eq,
    sectionIf_eq hsuggestions configurationSection_eq]
  simp only [List.filter_append, List.map_append]

theorem sectionLines_ne_nil (f : Findings) (t : Topic) : sectionLines f t ≠ [] := by
  simp [sectionLines, framed]

theorem count_eq_length (f : Findings) : f.count = (findings f).length := by
  simp only [Findings.count, findings, List.length_append, List.length_map]
  omega

theorem topics_ne_nil (h : f.count ≠ 0) : topics f ≠ [] := by
  rw [count_eq_length] at h
  obtain ⟨x, hx⟩ := List.exists_mem_of_length_pos (Nat.pos_of_ne_zero h)
  exact List.ne_nil_of_mem (mem_topics.mpr ⟨x, hx, rfl⟩)

theorem mem_intercalate {between block : List String} {blocks : List (List String)} {l : String}
    (hblock : block ∈ blocks) (hl : l ∈ block) : l ∈ between.intercalate blocks := by
  induction blocks with
  | nil => cases hblock
  | cons next blocks ih =>
    cases blocks with
    | nil =>
      obtain rfl := List.mem_singleton.mp hblock
      simpa [List.intercalate] using hl
    | cons next' blocks =>
      rw [List.intercalate_cons_cons, List.append_assoc]
      obtain rfl | hblock := List.mem_cons.mp hblock
      · exact List.mem_append_left _ hl
      · exact List.mem_append_right _ (List.mem_append_right _ (ih hblock))

/-- A report has the lines of every part in which a finding is shown. -/
theorem mem_layoutBody {k : Kind} {x : Finding} {l : String} (hx : x ∈ shown f k)
    (hl : l ∈ partLines k (shown f k)) : l ∈ layoutBody f := by
  obtain ⟨hfound, hkind⟩ := mem_shown.mp hx
  have hcount : f.count ≠ 0 := by
    rw [count_eq_length]
    exact Nat.ne_of_gt (List.length_pos_of_mem hfound)
  have htopic : k.topic ∈ topics f := mem_topics.mpr ⟨x, hfound, congrArg Kind.topic hkind⟩
  have hsection : l ∈ sectionLines f k.topic := by
    have hparts : l ∈ k.topic.kinds.flatMap fun k => partLines k (shown f k) :=
      List.mem_flatMap.mpr ⟨k, mem_kinds.mpr rfl, hl⟩
    rw [sectionLines, framed]
    exact List.mem_append_left _ (List.mem_append_right _ (List.mem_append_right _ hparts))
  rw [layoutBody, if_neg hcount]
  exact List.mem_append_right _ (mem_intercalate (List.mem_map_of_mem htopic) hsection)

theorem page_of_count_eq_zero (hcount : f.count = 0) : page f =
    lines (openingLines f ++ ["**No API inconsistencies detected.**", "", endMarker, ""]) := by
  rw [page, layout, layoutBody, if_pos hcount, List.append_assoc]
  rfl

theorem page_of_count_ne_zero (hcount : f.count ≠ 0) : page f =
    lines (openingLines f ++ [totals f, ""]) ++ "\n" ++ "\n\n<hr>\n\n".intercalate (sections f) ++
      "\n\n" ++ endMarker ++ "\n" := by
  have hblocks : ∀ block ∈ (topics f).map (sectionLines f), block ≠ [] :=
    List.forall_mem_map.mpr fun t _ => sectionLines_ne_nil f t
  generalize hmiddle : ["", "<hr>", ""].intercalate ((topics f).map (sectionLines f)) = middle
  have hne : middle ≠ [] := by
    obtain ⟨t, ts, hts⟩ := List.exists_cons_of_ne_nil (topics_ne_nil hcount)
    rw [← hmiddle, hts]
    cases ts <;> simp [List.intercalate_cons_cons, sectionLines_ne_nil]
  have hsections : lines middle = "\n\n<hr>\n\n".intercalate (sections f) := by
    have hbreaks : "\n" ++ lines ["", "<hr>", ""] ++ "\n" = "\n\n<hr>\n\n" := rfl
    rw [← hmiddle, lines_intercalate (by simp) hblocks, sections_eq, List.map_map, hbreaks,
      Function.comp_def]
  have hfront : openingLines f ++ [totals f, ""] ≠ [] := by simp
  calc page f
      = lines ((openingLines f ++ [totals f, ""]) ++ (middle ++ ["", endMarker, ""])) := by
        rw [page, layout, layoutBody, if_neg hcount, hmiddle]
        simp only [List.append_assoc]
    _ = lines (openingLines f ++ [totals f, ""]) ++ "\n" ++
          (lines middle ++ "\n" ++ lines ["", endMarker, ""]) := by
        rw [lines_append hfront (by simp [hne]), lines_append hne (by simp)]
    _ = _ := by
        rw [hsections]
        simp only [String.append_assoc]
        rfl

/-- Both counts of the summary can be written. -/
def HasShortCounts (f : Findings) : Prop :=
  Number.IsShort f.summary.endpointCount ∧ Number.IsShort f.summary.callCount

theorem head_of_hasShortCounts (h : HasShortCounts f) : head f = .ok (openingLines f) := by
  rw [head, Number.written, Number.written, if_pos h.1, if_pos h.2]
  rfl

theorem head_of_not_hasShortCounts (h : ¬ HasShortCounts f) : head f = .error {} := by
  rw [head, Number.written, Number.written]
  by_cases hendpoints : Number.IsShort f.summary.endpointCount
  · have hcalls : ¬ Number.IsShort f.summary.callCount := fun hcalls => h ⟨hendpoints, hcalls⟩
    rw [if_pos hendpoints, if_neg hcalls]
    rfl
  · rw [if_neg hendpoints]
    rfl

theorem markdown_of_hasShortCounts (h : HasShortCounts f) : markdown f = .ok (page f) := by
  rw [markdown, head_of_hasShortCounts h]
  by_cases hcount : f.count = 0
  · rw [page_of_count_eq_zero hcount]
    exact if_pos hcount
  · rw [page_of_count_ne_zero hcount]
    exact if_neg hcount

theorem markdown_of_not_hasShortCounts (h : ¬ HasShortCounts f) : markdown f = .error {} := by
  rw [markdown, head_of_not_hasShortCounts h]
  rfl

end

end ServiceContracts.Report
