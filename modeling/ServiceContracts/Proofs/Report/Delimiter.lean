import ServiceContracts.Analysis
import ServiceContracts.Proofs.Report.Account
import ServiceContracts.Proofs.Report.Json
import ServiceContracts.Proofs.Text.Occurrence

/-!
# What delimits the parts of a Markdown report

Comments delimit a report, line feeds its lines, and bars the cells of a row. The texts of the
findings stand in it as they are, so that a text may hold any of these itself.

* `bars`, `isTally_bars` : the bars that delimit cells;
* `IsComment`, `isTally_occurrences` : the occurrences of a comment;
* `IsMarker`, `occurrences_page` : those of a marker in a report;
* `markdown_delimited` : a report has the delimiters of its own only just if the texts of its
  findings have none.
-/

namespace ServiceContracts.Report
open Text

/-! ## Bars -/

/-- The bars that a backslash does not escape, `escaped` telling of one in front. -/
def barsFrom : Bool → List Char → Nat
  | _, [] => 0
  | true, _ :: cs => barsFrom false cs
  | false, c :: cs =>
    if c = '|' then barsFrom false cs + 1 else barsFrom (c = '\\') cs

/-- The bars that delimit cells. -/
def bars (s : String) : Nat := barsFrom false s.toList

/-- A character that neither is a bar nor escapes one. -/
def isInert (c : Char) : Bool := c != '|' && c != '\\'

section Bars
variable {c : Char} {front : List Char}

theorem isInert_iff : isInert c = true ↔ c ≠ '|' ∧ c ≠ '\\' := by
  rw [isInert, Bool.and_eq_true, bne_iff_ne, bne_iff_ne]

/-- What stands behind an inert character is read afresh. -/
theorem barsFrom_append_cons (hc : isInert c = true) (escaped : Bool) (front rest : List Char) :
    barsFrom escaped (front ++ c :: rest) = barsFrom escaped front + barsFrom false rest := by
  obtain ⟨hbar, hescape⟩ := isInert_iff.mp hc
  fun_induction barsFrom escaped front with
  | case1 escaped => cases escaped <;> simp [barsFrom, hbar, hescape]
  | case2 d front ih => rw [List.cons_append, barsFrom, ih]
  | case3 front ih =>
    rw [List.cons_append, barsFrom, if_pos rfl, ih]
    omega
  | case4 d front hd ih => rw [List.cons_append, barsFrom, if_neg hd, ih]

theorem barsFrom_append (h : front.all isInert = true) (rest : List Char) :
    barsFrom false (front ++ rest) = barsFrom false rest := by
  induction front with
  | nil => rfl
  | cons c front ih =>
    rw [List.all_cons, Bool.and_eq_true, isInert_iff] at h
    obtain ⟨⟨hbar, hescape⟩, hfront⟩ := h
    rw [List.cons_append, barsFrom, if_neg hbar, decide_eq_false hescape, ih hfront]

theorem bars_append_mark {w : String} (hne : w.toList ≠ [])
    (hw : w.toList.all isInert = true) (a b : String) :
    bars (a ++ w ++ b) = bars a + bars b := by
  obtain ⟨c, cs, hcs⟩ := List.exists_cons_of_ne_nil hne
  rw [hcs, List.all_cons, Bool.and_eq_true] at hw
  rw [bars, String.toList_append, String.toList_append, hcs, List.append_assoc, List.cons_append,
    barsFrom_append_cons hw.1, barsFrom_append hw.2]
  rfl

theorem isTally_bars : IsTally bars 1 where
  empty := rfl
  word := by decide
  mark w hw a b := by
    have hmarks : ∀ w ∈ marks, w.toList ≠ [] ∧ w.toList.all isInert = true := by decide
    exact bars_append_mark (hmarks w hw).1 (hmarks w hw).2 a b
  bullet a := by
    rw [bars, String.toList_append, barsFrom_append (by decide), bars]
  first a := by
    have hfirst : "| ".toList = ['|', ' '] := rfl
    rw [bars, String.toList_append, hfirst, bars, Nat.add_comm]
    rfl
  next a b := by
    have hnext : " | ".toList = ' ' :: ['|', ' '] := rfl
    rw [bars, String.toList_append, String.toList_append, hnext, List.append_assoc,
      List.cons_append, barsFrom_append_cons (by decide), Nat.add_assoc, Nat.add_comm 1]
    rfl
  last a := by
    have hlast : " |".toList = ' ' :: ['|'] := rfl
    rw [bars, String.toList_append, hlast, barsFrom_append_cons (by decide)]
    rfl

end Bars

/-! ## Comments -/

/-- Characters of which every mark of a report has one, and every line break. -/
def foreign : List Char := ['`', ',', '(', ')', '[', ']', '*', 'i', '|', '\n']

/-- A character inside of a comment. -/
def isInner (c : Char) : Bool := c != '<' && c != '>' && !foreign.contains c

/-- A comment without a foreign character. -/
def IsComment (mark : List Char) : Prop :=
  '!' ∈ mark ∧ ∃ body, mark = '<' :: (body ++ ['>']) ∧ body.all isInner = true

theorem not_mem_of_all_isInner {body : List Char} (h : body.all isInner = true) :
    '<' ∉ body ∧ '>' ∉ body ∧ ∀ c ∈ foreign, c ∉ body := by
  simp only [isInner, List.all_eq_true, Bool.and_eq_true, bne_iff_ne, Bool.not_eq_true',
    List.contains_eq_mem, decide_eq_false_iff_not] at h
  exact ⟨fun hmem => (h _ hmem).1.1 rfl, fun hmem => (h _ hmem).1.2 rfl,
    fun c hc hmem => (h c hmem).2 hc⟩

namespace IsComment
variable {mark other w : List Char} (h : IsComment mark)
include h

theorem ne_nil : mark ≠ [] := by
  obtain ⟨-, body, rfl, -⟩ := h
  exact List.cons_ne_nil _ _

theorem not_mem {c : Char} (hc : c ∈ foreign) : c ∉ mark := by
  obtain ⟨-, body, rfl, hbody⟩ := h
  intro hmem
  obtain rfl | hmem := List.mem_cons.mp hmem
  · exact absurd hc (by decide)
  · obtain hmem | hmem := List.mem_append.mp hmem
    · exact (not_mem_of_all_isInner hbody).2.2 c hc hmem
    · obtain rfl := List.mem_singleton.mp hmem
      exact absurd hc (by decide)

theorem occurrences_of_isPlain {l : String} (hl : IsPlain l) : occurrences mark l.toList = 0 :=
  occurrences_of_not_mem h.1 (isPlain_iff.mp hl).2

/-- A comment does not start in `w`. -/
theorem occurrences_append_left (hw : '<' ∉ w) (b : List Char) :
    occurrences mark (w ++ b) = occurrences mark b := by
  obtain ⟨-, body, rfl, -⟩ := h
  induction w with
  | nil => rfl
  | cons c w ih =>
    obtain ⟨hc, hw⟩ := List.ne_and_not_mem_of_not_mem_cons hw
    rw [List.cons_append, occurrences_cons_of_ne hc, ih hw]

/-- A comment does not end in `w`. -/
theorem occurrences_append_right (hw : '>' ∉ w) (a : List Char) :
    occurrences mark (a ++ w) = occurrences mark a := by
  obtain ⟨-, body, rfl, -⟩ := h
  rw [← List.cons_append]
  induction w generalizing a with
  | nil => rw [List.append_nil]
  | cons c w ih =>
    obtain ⟨hc, hw⟩ := List.ne_and_not_mem_of_not_mem_cons hw
    rw [List.append_cons a c w, ih hw, occurrences_concat_of_ne hc]

theorem occurrences_append_mark (hopens : '<' ∉ w) (hcloses : '>' ∉ w)
    (hforeign : w.any (foreign.contains ·) = true) (a b : List Char) :
    occurrences mark (a ++ w ++ b) = occurrences mark a + occurrences mark b := by
  obtain ⟨c, hc, hcontains⟩ := List.any_eq_true.mp hforeign
  obtain ⟨front, rest, rfl⟩ := List.append_of_mem hc
  have hfront : '>' ∉ front := fun hmem => hcloses (List.mem_append_left _ hmem)
  have hrest : '<' ∉ rest := fun hmem =>
    hopens (List.mem_append_right _ (List.mem_cons_of_mem _ hmem))
  calc occurrences mark (a ++ (front ++ c :: rest) ++ b)
    _ = occurrences mark ((a ++ front) ++ c :: (rest ++ b)) := by simp only [List.append_assoc,
          List.cons_append]
    _ = occurrences mark (a ++ front) + occurrences mark (rest ++ b) :=
        occurrences_append_sep h.ne_nil (h.not_mem (List.contains_iff_mem.mp hcontains))
    _ = occurrences mark a + occurrences mark b := by
        rw [h.occurrences_append_right hfront, h.occurrences_append_left hrest]

theorem isTally_occurrences : IsTally (fun s => occurrences mark s.toList) 0 where
  empty := occurrences_nil h.ne_nil
  word w hw := by
    have hwords : ∀ w ∈ words, IsPlain w := by decide
    exact h.occurrences_of_isPlain (hwords w hw)
  mark w hw a b := by
    have hmarks : ∀ w ∈ marks, '<' ∉ w.toList ∧ '>' ∉ w.toList ∧
        w.toList.any (foreign.contains ·) = true := by decide
    obtain ⟨hopens, hcloses, hforeign⟩ := hmarks w hw
    rw [String.toList_append, String.toList_append,
      h.occurrences_append_mark hopens hcloses hforeign]
  bullet a := by
    rw [String.toList_append, h.occurrences_append_left (by decide)]
  first a := by
    have := h.occurrences_append_mark (w := "| ".toList) (by decide) (by decide)
      (by decide) [] a.toList
    rwa [List.nil_append, occurrences_nil h.ne_nil, ← String.toList_append] at this
  next a b := by
    rw [String.toList_append, String.toList_append,
      h.occurrences_append_mark (by decide) (by decide) (by decide)]
    rfl
  last a := by
    have := h.occurrences_append_mark (w := " |".toList) (by decide) (by decide)
      (by decide) a.toList []
    rwa [List.append_nil, occurrences_nil h.ne_nil, ← String.toList_append] at this

/-- A comment stays within a line. -/
theorem occurrences_lines (ls : List String) : occurrences mark (lines ls).toList =
    (ls.map fun l => occurrences mark l.toList).sum := by
  induction ls with
  | nil => exact occurrences_nil h.ne_nil
  | cons l ls ih =>
    cases ls with
    | nil => simp [lines]
    | cons l' ls =>
      have hbreak : "\n".toList = ['\n'] := rfl
      rw [lines] at ih ⊢
      rw [String.intercalate_cons_cons, String.toList_append, String.toList_append, hbreak,
        List.append_assoc, List.singleton_append,
        occurrences_append_sep h.ne_nil (h.not_mem (by decide)), ih, ← List.sum_cons,
        ← List.map_cons (f := fun l : String => occurrences mark l.toList)]

/-- In another comment it occurs just if both are the same. -/
theorem occurrences_of_isComment (hother : IsComment other) :
    occurrences mark other = if mark = other then 1 else 0 := by
  obtain ⟨-, body, rfl, hbody⟩ := hother
  obtain ⟨hopens, hcloses, -⟩ := not_mem_of_all_isInner hbody
  have hopens : '<' ∉ body ++ ['>'] := by simp [hopens]
  have hrest : occurrences mark (body ++ ['>']) = 0 := by
    rw [← List.append_nil (body ++ _), h.occurrences_append_left hopens, occurrences_nil h.ne_nil]
  have hstarts : mark <+: '<' :: (body ++ ['>']) ↔ mark = '<' :: (body ++ ['>']) := by
    rw [← List.cons_append, List.prefix_concat_iff]
    refine or_iff_left fun hp => ?_
    obtain ⟨-, body', rfl, -⟩ := h
    have hmem : '>' ∈ '<' :: body := hp.subset (by simp)
    obtain hmem | hmem := List.mem_cons.mp hmem
    · exact absurd hmem (by decide)
    · exact hcloses hmem
  rw [occurrences_cons, hrest, Nat.zero_add]
  simp only [hstarts]

end IsComment

/-! ## Markers -/

/-- The markers of reports. -/
inductive IsMarker : String → Prop
  | start : IsMarker startMarker
  | count (n : Nat) : IsMarker (countMarker n)
  | finish : IsMarker endMarker

theorem isComment_startMarker : IsComment startMarker.toList :=
  ⟨by decide, "!-- API_CONTRACT_OUTPUT_START --".toList, rfl, by decide⟩

theorem isComment_endMarker : IsComment endMarker.toList :=
  ⟨by decide, "!-- API_CONTRACT_OUTPUT_END --".toList, rfl, by decide⟩

theorem toList_countMarker (n : Nat) : (countMarker n).toList =
    "<!-- API_CONTRACT_ISSUE_COUNT:".toList ++ Number.natText n ++ " -->".toList := by
  unfold countMarker
  rw [String.toList_append, String.toList_append, Nat.toString_eq_repr, Nat.toList_repr]
  rfl

theorem isComment_countMarker (n : Nat) : IsComment (countMarker n).toList := by
  rw [toList_countMarker]
  have hopening : "!-- API_CONTRACT_ISSUE_COUNT:".toList.all isInner = true := by decide
  have hclosing : " --".toList.all isInner = true := by decide
  have hdigits : (Number.natText n).all isInner = true := by
    rw [List.all_eq_true]
    intro c hc
    have hdigit := Number.isDigit_of_mem_natText hc
    have hne : ∀ d, isDigit d = false → c ≠ d := by
      rintro d hd rfl
      rw [hd] at hdigit
      cases hdigit
    have hforeign : c ∉ foreign := by
      have hnone : foreign.all (fun d => !isDigit d) = true := by decide
      exact fun hmem => hne c (by simpa using List.all_eq_true.mp hnone c hmem) rfl
    simp [isInner, hne '<' (by decide), hne '>' (by decide), hforeign]
  refine ⟨by simp, "!-- API_CONTRACT_ISSUE_COUNT:".toList ++ Number.natText n ++ " --".toList,
    ?_, ?_⟩
  · rw [List.append_assoc, List.append_assoc]
    rfl
  · rw [List.all_append, List.all_append, hopening, hdigits, hclosing]
    rfl

theorem IsMarker.isComment {mark : String} (h : IsMarker mark) : IsComment mark.toList := by
  cases h with
  | start => exact isComment_startMarker
  | count n => exact isComment_countMarker n
  | finish => exact isComment_endMarker

/-- The markers of a report are different ones. -/
theorem nodup_markers (n : Nat) : [startMarker, countMarker n, endMarker].Nodup := by
  have hcolon : ':' ∈ (countMarker n).toList := by
    rw [toList_countMarker]
    simp
  have hstart : startMarker ≠ countMarker n := fun h =>
    absurd (h ▸ hcolon) (by decide : ':' ∉ startMarker.toList)
  have hfinish : countMarker n ≠ endMarker := fun h =>
    absurd (h ▸ hcolon) (by decide : ':' ∉ endMarker.toList)
  have hends : startMarker ≠ endMarker := by decide
  simp [hstart, hfinish, hends]

section Report
variable {f : Findings} {mark : String}

/-- Each of the three markers of a report occurs in it, and so does any marker in the texts. -/
theorem occurrences_page (h : IsMarker mark) :
    occurrences mark.toList (page f).toList =
      (if mark ∈ [startMarker, countMarker f.count, endMarker] then 1 else 0) +
        ((findings f).map fun x =>
          (x.texts.map fun text => occurrences mark.toList text.toList).sum).sum := by
  have hcomment := h.isComment
  have hlayout := sum_layout (ν := fun l => occurrences mark.toList l.toList) (e := 0)
    (fun l hl => hcomment.occurrences_of_isPlain hl) f
  have hmarkers : occurrences mark.toList startMarker.toList +
      occurrences mark.toList (countMarker f.count).toList +
      occurrences mark.toList endMarker.toList =
      if mark ∈ [startMarker, countMarker f.count, endMarker] then 1 else 0 := by
    rw [hcomment.occurrences_of_isComment isComment_startMarker,
      hcomment.occurrences_of_isComment (isComment_countMarker _),
      hcomment.occurrences_of_isComment isComment_endMarker]
    have hnodup := nodup_markers f.count
    generalize startMarker = start, countMarker f.count = count, endMarker = finish at hnodup ⊢
    rw [← hnodup.count]
    simp only [String.toList_inj, List.count_cons, List.count_nil, beq_iff_eq, eq_comm (b := mark)]
    omega
  rw [page, hcomment.occurrences_lines, hlayout, hmarkers, Nat.zero_mul, Nat.add_zero]
  simp only [hcomment.isTally_occurrences.line, Nat.zero_mul, Nat.zero_add]

theorem newlines_line (x : Finding) : newlines x.line = (x.texts.map newlines).sum := by
  rw [isTally_newlines.line, Nat.zero_mul, Nat.zero_add]

theorem bars_row {names : List String} (hne : names ≠ []) (h : ∀ name ∈ names, bars name = 0) :
    bars (row names) = names.length + 1 := by
  have hnames : (names.map bars).sum = 0 := List.sum_eq_zero (List.forall_mem_map.mpr h)
  rw [isTally_bars.row hne, hnames, Nat.one_mul, Nat.add_zero]

/-- The row of a finding has the bars of the head of its table, and those in its texts. -/
theorem bars_line {x : Finding} {names : List String} (h : x.kind.columns = some names) :
    bars x.line = bars (row names) + (x.texts.map bars).sum := by
  have hhead : bars (row names) = names.length + 1 := by
    generalize x.kind = k at h
    cases k <;> cases h <;> exact bars_row (List.cons_ne_nil _ _) (by decide)
  rw [isTally_bars.line, h, hhead, Option.elim_some, Nat.one_mul]

/-- A table stands in the report with its head and the rows of its findings. -/
theorem rows_mem_layoutBody {k : Kind} {names : List String} {x : Finding}
    (hcolumns : k.columns = some names) (hx : x ∈ shown f k) :
    row names ∈ layoutBody f ∧ x.line ∈ layoutBody f := by
  have hpart := partLines_of_ne (k := k) (List.ne_nil_of_mem hx)
  rw [hcolumns, Option.elim_some] at hpart
  constructor <;> refine mem_layoutBody hx ?_ <;> rw [hpart]
  · exact List.mem_append_right _ (List.mem_append_left _ List.mem_cons_self)
  · exact List.mem_append_right _ (List.mem_append_right _
      (List.mem_append_left _ (List.mem_map_of_mem hx)))

end Report

/-- The report stands between the markers, and its tables with it. -/
theorem exists_page_eq (f : Findings) : ∃ body,
    page f = lines (startMarker :: countMarker f.count :: body ++ [endMarker, ""]) ∧
      ∀ k names, k.columns = some names → ∀ x ∈ shown f k, row names ∈ body ∧ x.line ∈ body := by
  refine ⟨(openingLines f).drop 2 ++ layoutBody f ++ [""], ?_, fun k names hcolumns x hx => ?_⟩
  · have hclosing : ["", endMarker, ""] = [""] ++ [endMarker, ""] := rfl
    rw [page, layout, hclosing, ← List.append_assoc]
    rfl
  · have hbody : ∀ l ∈ layoutBody f, l ∈ (openingLines f).drop 2 ++ layoutBody f ++ [""] :=
      fun l hl => List.mem_append_left _ (List.mem_append_right _ hl)
    exact (rows_mem_layoutBody hcolumns hx).imp (hbody _) (hbody _)

/-- A marker occurs as often as it delimits just if no text of a finding holds it. -/
theorem occurrences_page_eq_iff {f : Findings} {mark : String} (h : IsMarker mark) :
    occurrences mark.toList (page f).toList =
        (if mark ∈ [startMarker, countMarker f.count, endMarker] then 1 else 0) ↔
      ∀ x ∈ findings f, ∀ text ∈ x.texts, ¬ mark.toList <:+: text.toList := by
  rw [occurrences_page h, Nat.add_eq_left]
  simp only [List.sum_eq_zero_iff_forall_eq_nat, List.forall_mem_map, occurrences_eq_zero_iff]

/-- A report is written just if both numbers of the summary have few enough digits. It starts with
two markers and ends with the third one, and its tables stand in between. The markers stand alone,
and each row in one line with as many cells as the head of its table, just as far as no text of a
finding holds such a delimiter itself. -/
theorem markdown_delimited (f : Findings) :
    (HasShortCounts f → ∃ report, markdown f = .ok report ∧
      (∃ body, report = lines (startMarker :: countMarker f.count :: body ++ [endMarker, ""]) ∧
        ∀ k names, k.columns = some names → ∀ x ∈ shown f k, row names ∈ body ∧ x.line ∈ body) ∧
      ∀ mark, IsMarker mark →
        (occurrences mark.toList report.toList =
            (if mark ∈ [startMarker, countMarker f.count, endMarker] then 1 else 0) ↔
          ∀ x ∈ findings f, ∀ text ∈ x.texts, ¬ mark.toList <:+: text.toList)) ∧
    (¬ HasShortCounts f → markdown f = .error {}) ∧
    ∀ k names, k.columns = some names → ∀ x ∈ shown f k,
      (newlines x.line = 0 ↔ ∀ text ∈ x.texts, '\n' ∉ text.toList) ∧
      (bars x.line = bars (row names) ↔ ∀ text ∈ x.texts, bars text = 0) := by
  refine ⟨fun h => ⟨page f, markdown_of_hasShortCounts h, exists_page_eq f, fun _ =>
    occurrences_page_eq_iff⟩, markdown_of_not_hasShortCounts, fun k names hcolumns x hx => ?_⟩
  have hkind : x.kind.columns = some names := by rw [(mem_shown.mp hx).2, hcolumns]
  rw [newlines_line, bars_line hkind, Nat.add_eq_left]
  simp only [List.sum_eq_zero_iff_forall_eq_nat, List.forall_mem_map, newlines,
    List.count_eq_zero, and_self]

theorem markdown_delimited_everyKind :
    (∃ report, markdown everyKind = .ok report ∧ occurrences endMarker.toList report.toList = 1) ∧
    ∀ x ∈ shown everyKind .missing, newlines x.line = 0 ∧
      bars x.line = bars (row ["Method", "Path", "Caller", "Confidence"]) := by
  have hmarkers : ∀ x ∈ findings everyKind, ∀ text ∈ x.texts,
      ¬ endMarker.toList <:+: text.toList := by decide
  have hlines : ∀ x ∈ shown everyKind .missing, ∀ text ∈ x.texts, '\n' ∉ text.toList := by decide
  have hbars : ∀ x ∈ shown everyKind .missing, ∀ text ∈ x.texts, bars text = 0 := by decide
  obtain ⟨hreport, -, hrows⟩ := markdown_delimited everyKind
  constructor
  · obtain ⟨report, hok, -, hoccurs⟩ := hreport ⟨by decide, by decide⟩
    refine ⟨report, hok, ?_⟩
    rw [(hoccurs endMarker .finish).mpr hmarkers, if_pos (by simp)]
  · intro x hx
    obtain ⟨hline, hrow⟩ := hrows .missing _ rfl x hx
    exact ⟨hline.mpr (hlines x hx), hrow.mpr (hbars x hx)⟩

/-- An endpoint with alternatives in its path, at a place that is named like a marker. -/
def delimiting : Snapshot where
  facts := [.endpoint { method := "GET", path := "/:type(a|b)", owner := "app", repo := "svc",
                        location := endMarker }]

/-- What an analysis finds in `delimiting`. -/
def foundDelimiting : Findings where
  issues := [.orphaned { method := "GET", fullPath := "/:type(a|b)", repo := "svc", owner := "app",
                         location := endMarker }]
  summary := { endpointCount := 1, callCount := 0 }

/-- The path adds a cell to the row of the endpoint, and the place a marker to the report. -/
theorem markdown_delimiting : Analysis.analyze {} delimiting = .ok foundDelimiting ∧
    bars (row ["Method", "Path", "Defined In", "Confidence"]) = 5 ∧
    (shown foundDelimiting .orphaned).map (fun x => bars x.line) = [6] ∧
    ∃ report, markdown foundDelimiting = .ok report ∧
      occurrences endMarker.toList report.toList = 2 := by
  refine ⟨by decide +kernel, by decide, by decide, page foundDelimiting,
    markdown_of_hasShortCounts ⟨by decide, by decide⟩, ?_⟩
  rw [occurrences_page .finish]
  decide

end ServiceContracts.Report
