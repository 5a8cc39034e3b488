import ServiceContracts.Proofs.Report.Json
import ServiceContracts.Proofs.Report.Tally

/-!
# The Markdown report accounts for every finding

* `newlines`, `isTally_newlines`, `newlines_page` : the line feeds of a report;
* `IsReportOrder`, `isReportOrder_sortedConflicts` : the order of the conflicts;
* `Accounts`, `accounts_markdown` : the report tells how many findings there are and shows each of
  them once, in the section of its topic; without a report a number has too many digits.
-/

namespace ServiceContracts.Report

/-! ## Line feeds -/

/-- The number of line feeds in a text. -/
def newlines (s : String) : Nat := s.toList.count '\n'

theorem newlines_append (a b : String) : newlines (a ++ b) = newlines a + newlines b := by
  rw [newlines, String.toList_append, List.count_append]
  rfl

theorem newlines_of_isPlain {l : String} (h : IsPlain l) : newlines l = 0 :=
  List.count_eq_zero.mpr (isPlain_iff.mp h).1

theorem isTally_newlines : IsTally newlines 0 where
  empty := rfl
  word := by decide
  mark w hw a b := by
    have hnone : ∀ w ∈ marks, newlines w = 0 := by decide
    rw [newlines_append, newlines_append, hnone w hw, Nat.add_zero]
  bullet a := by
    rw [newlines_append]
    exact Nat.zero_add _
  first a := newlines_append _ a
  next a b := by
    rw [newlines_append, newlines_append]
    rfl
  last a := newlines_append a _

/-- Every line but the first one adds a line feed of its own. -/
theorem newlines_lines {ls : List String} (h : ls ≠ []) :
    newlines (lines ls) + 1 = (ls.map fun l => newlines l + 1).sum := by
  induction ls with
  | nil => exact absurd rfl h
  | cons l ls ih =>
    cases ls with
    | nil => simp [lines]
    | cons m ls =>
      have hbreak : newlines "\n" = 1 := rfl
      have := ih (by simp)
      rw [lines] at this ⊢
      rw [String.intercalate_cons_cons, newlines_append, newlines_append, hbreak, List.map_cons,
        List.sum_cons]
      omega

theorem newlines_ofList (cs : List Char) : newlines (String.ofList cs) = cs.count '\n' := by
  rw [newlines, String.toList_ofList]

theorem newlines_startMarker : newlines startMarker = 0 := newlines_ofList _

theorem newlines_endMarker : newlines endMarker = 0 := newlines_ofList _

theorem newlines_countMarker (n : Nat) : newlines (countMarker n) = 0 := by
  have hopening : newlines "<!-- API_CONTRACT_ISSUE_COUNT:" = 0 := newlines_ofList _
  have hclosing : newlines " -->" = 0 := newlines_ofList _
  have hfront : newlines ("<!-- API_CONTRACT_ISSUE_COUNT:" ++ toString n) = 0 := by
    rw [newlines_append, hopening, newlines_of_isPlain (isPlain_nat n)]
  unfold countMarker
  rw [newlines_append]
  rw [hfront]
  rw [hclosing]

/-- Besides the line feeds in the texts of its findings, a report has those behind two markers, the
frame and the findings. -/
theorem newlines_page (f : Findings) : newlines (page f) = 2 + frameLines (has f) + f.count +
    ((findings f).map fun x => (x.texts.map newlines).sum).sum := by
  have hsum := sum_layout (ν := fun l => newlines l + 1) (e := 1)
    (fun l hl => by rw [newlines_of_isPlain hl]) f
  have hlayout : layout f ≠ [] := by simp [layout]
  simp only [isTally_newlines.line, newlines_startMarker, newlines_countMarker,
    newlines_endMarker, Nat.zero_mul, Nat.zero_add, List.sum_map_add,
    List.map_const', List.sum_replicate_nat, ← count_eq_length] at hsum
  have := newlines_lines hlayout
  simp only [List.sum_map_add, List.map_const', List.sum_replicate_nat] at this
  rw [page]
  omega

/-! ## The order of the conflicts -/

/-- The conflicts in the order of a report: the most serious ones first, then by the code points of
the package, and otherwise as they were found. -/
structure IsReportOrder (cs sorted : List Conflict) : Prop where
  perm : sorted.Perm cs
  ordered : sorted.Pairwise fun a b =>
    a.severity.rank < b.severity.rank ∨ a.severity = b.severity ∧
      ¬ Text.IsBefore b.package a.package
  stable : ∀ severity package,
    (sorted.filter fun c => c.severity = severity ∧ c.package = package) =
      cs.filter fun c => c.severity = severity ∧ c.package = package

section Order
variable {a b : Conflict}

theorem rank_inj {s t : Severity} (h : s.rank = t.rank) : s = t := by
  cases s <;> cases t <;> first | rfl | cases h

theorem conflictPrecedes_iff : conflictPrecedes a b = true ↔
    a.severity.rank < b.severity.rank ∨
      a.severity = b.severity ∧ Text.precedes a.package b.package = true := by
  have hrank : a.severity.rank = b.severity.rank ↔ a.severity = b.severity :=
    ⟨rank_inj, congrArg _⟩
  simp only [conflictPrecedes, Bool.or_eq_true, Bool.and_eq_true, decide_eq_true_iff, beq_iff_eq,
    hrank]

theorem conflictPrecedes_trans (a b c : Conflict) (hab : conflictPrecedes a b = true)
    (hbc : conflictPrecedes b c = true) : conflictPrecedes a c = true := by
  rw [conflictPrecedes_iff] at hab hbc ⊢
  obtain hab | ⟨hab, hpab⟩ := hab <;> obtain hbc | ⟨hbc, hpbc⟩ := hbc
  · exact .inl (Nat.lt_trans hab hbc)
  · exact .inl (hbc ▸ hab)
  · exact .inl (hab ▸ hbc)
  · exact .inr ⟨hab.trans hbc, Text.precedes_trans hpab hpbc⟩

theorem conflictPrecedes_total (a b : Conflict) :
    (conflictPrecedes a b || conflictPrecedes b a) = true := by
  rw [Bool.or_eq_true, conflictPrecedes_iff, conflictPrecedes_iff]
  obtain hlt | heq | hlt := Nat.lt_trichotomy a.severity.rank b.severity.rank
  · exact .inl (.inl hlt)
  · obtain hle | hle := Text.precedes_total a.package b.package
    · exact .inl (.inr ⟨rank_inj heq, hle⟩)
    · exact .inr (.inr ⟨(rank_inj heq).symm, hle⟩)
  · exact .inr (.inl hlt)

theorem isReportOrder_sortedConflicts (cs : List Conflict) :
    IsReportOrder cs (sortedConflicts cs) where
  perm := sortedConflicts_perm cs
  ordered := by
    refine List.Pairwise.imp (fun h => (conflictPrecedes_iff.mp h).imp_right
      (And.imp_right Text.not_isBefore_of_precedes)) ?_
    exact List.pairwise_mergeSort conflictPrecedes_trans conflictPrecedes_total cs
  stable severity package := by
    have hties : (cs.filter fun c => c.severity = severity ∧ c.package = package).Pairwise
        fun a b => conflictPrecedes a b = true := by
      refine List.pairwise_of_forall_mem_list fun a ha b hb => ?_
      simp only [List.mem_filter, decide_eq_true_iff] at ha hb
      obtain ⟨-, rfl, rfl⟩ := ha
      obtain ⟨-, hseverity, hpackage⟩ := hb
      exact conflictPrecedes_iff.mpr (.inr ⟨hseverity.symm, hpackage ▸ Text.precedes_refl _⟩)
    have hkept := (List.sublist_mergeSort conflictPrecedes_trans conflictPrecedes_total hties
      List.filter_sublist).filter fun c : Conflict => c.severity = severity ∧ c.package = package
    rw [List.filter_filter] at hkept
    simp only [Bool.and_self] at hkept
    exact (hkept.eq_of_length ((sortedConflicts_perm cs).filter _).length_eq.symm).symm

end Order

/-! ## The account -/

/-- The line that tells how many findings there are, and how many of them are on each topic. -/
def totalsLine (count : Nat) (about : Topic → Nat) : String :=
  "Found " ++ counted count "total issues" ++ ": " ++
    counted (about .mismatches) "method mismatches" ++ ", " ++
    counted (about .connectivity) "connectivity issues" ++ ", " ++
    counted (about .dependencies) "dependency conflicts" ++ ", " ++
    counted (about .configuration) "configuration suggestions" ++ " and " ++
    counted (about .structural) "structural errors" ++ "."

theorem totals_eq (f : Findings) : totals f = totalsLine f.count fun t => (shownIn f t).length := by
  have hmismatches : (shownIn f .mismatches).length =
      (f.issues.filterMap Issue.mismatch?).length := by
    simp [shownIn, Topic.kinds, shown]
  have hendpoints : (shownIn f .connectivity).length =
      (f.issues.filterMap Issue.missing?).length + (f.issues.filterMap Issue.orphaned?).length := by
    simp [shownIn, Topic.kinds, shown]
  have hconflicts : (shownIn f .dependencies).length = f.conflicts.length := by
    simp [shownIn, Topic.kinds, shown, (sortedConflicts_perm f.conflicts).length_eq]
  have hsuggestions : (shownIn f .configuration).length =
      (f.issues.filterMap Issue.suggestion?).length := by
    simp [shownIn, Topic.kinds, shown]
  have hdiagnostics : (shownIn f .structural).length = f.diagnostics.length := by
    simp [shownIn, Topic.kinds, shown]
  unfold totals totalsLine
  beta_reduce
  rw [hmismatches, hendpoints, hconflicts, hsuggestions, hdiagnostics]

theorem sum_length_shownIn (f : Findings) :
    (Topic.all.map fun t => (shownIn f t).length).sum = f.count := by
  have hkinds : Topic.all.flatMap Topic.kinds = Kind.all := rfl
  rw [count_eq_length, ← (shown_all_perm f).length_eq, ← hkinds, List.flatMap_assoc,
    List.length_flatMap]
  rfl

/-- What a report tells of the findings: how many there are, none or some of each kind, and in the
section of its topic each of them in a line of its own. -/
structure Accounts (f : Findings) (report : String) : Prop where
  /-- The second line tells how many findings there are. -/
  opening : ∃ rest, report = lines (startMarker ::
    countMarker (f.issues.length + f.conflicts.length + f.diagnostics.length) :: rest)
  zero : f.issues.length + f.conflicts.length + f.diagnostics.length = 0 ↔ f.any = false
  none : f.any = false ↔ report = lines
    (openingLines f ++ ["**No API inconsistencies detected.**"] ++ ["", endMarker, ""])
  some : f.any = true → report = lines (openingLines f ++
    ([totalsLine f.count fun t => (shownIn f t).length, ""] ++
      ["", "<hr>", ""].intercalate ((topics f).map (sectionLines f))) ++ ["", endMarker, ""])
  total : (Topic.all.map fun t => (shownIn f t).length).sum =
    f.issues.length + f.conflicts.length + f.diagnostics.length
  sections : (topics f).Sublist Topic.all
  present : ∀ t, t ∈ topics f ↔ ∃ x ∈ findings f, x.kind.topic = t
  once : (Kind.all.flatMap (shown f)).Perm (findings f)
  kind : ∀ k, ∀ x ∈ shown f k, x.kind = k
  found : ∀ k, k ≠ .conflict → shown f k = (findings f).filter fun x => x.kind = k
  conflicts : ∃ cs, IsReportOrder f.conflicts cs ∧ shown f .conflict = cs.map .conflict
  /-- Every line ends with a line feed. -/
  height : (∀ x ∈ findings f, ∀ text ∈ x.texts, '\n' ∉ text.toList) →
    newlines report =
      2 + frameLines (has f) + (f.issues.length + f.conflicts.length + f.diagnostics.length)

section Account
variable {f : Findings}

theorem any_eq_false_iff : f.any = false ↔ f.count = 0 := by
  simp only [Findings.any, Findings.count, Bool.or_eq_false_iff, Bool.not_eq_false',
    List.isEmpty_iff, Nat.add_eq_zero_iff, List.length_eq_zero_iff]

theorem any_eq_true_iff : f.any = true ↔ f.count ≠ 0 := by
  rw [Ne, ← any_eq_false_iff, Bool.not_eq_false]

theorem newlines_page_of_forall
    (h : ∀ x ∈ findings f, ∀ text ∈ x.texts, '\n' ∉ text.toList) :
    newlines (page f) = 2 + frameLines (has f) + f.count := by
  have hnone : ((findings f).map fun x => (x.texts.map newlines).sum).sum = 0 := by
    refine List.sum_eq_zero (List.forall_mem_map.mpr fun x hx => ?_)
    exact List.sum_eq_zero (List.forall_mem_map.mpr fun text htext =>
      List.count_eq_zero.mpr (h x hx text htext))
  rw [newlines_page, hnone, Nat.add_zero]

theorem newlines_without_findings (f : Findings) : newlines (lines
    (openingLines f ++ ["**No API inconsistencies detected.**"] ++ ["", endMarker, ""])) = 9 := by
  have hnone : newlines "**No API inconsistencies detected.**" = 0 := newlines_ofList _
  have hempty : newlines "" = 0 := newlines_ofList []
  have hopening := sum_openingLines (ν := fun l => newlines l + 1) (e := 1)
    (fun l hl => by rw [newlines_of_isPlain hl]) f
  rw [newlines_startMarker, newlines_countMarker] at hopening
  have hne :
      openingLines f ++ ["**No API inconsistencies detected.**"] ++ ["", endMarker, ""] ≠ [] := by
    simp
  have hlines := newlines_lines hne
  rw [List.map_append, List.map_append, List.sum_append, List.sum_append, hopening] at hlines
  simp only [List.map_cons, List.map_nil, List.sum_cons, List.sum_nil, hnone, hempty,
    newlines_endMarker] at hlines
  omega

theorem frameLines_of_count_ne_zero (h : f.count ≠ 0) : 17 ≤ frameLines (has f) := by
  have htopics := List.length_pos_of_ne_nil (topics_ne_nil h)
  rw [topics_eq] at htopics
  rw [Ne, count_eq_zero_iff, Bool.not_eq_false] at h
  rw [frameLines, if_pos h]
  omega

/-- The report tells that there are no findings just if there are none. -/
theorem page_eq_none_iff : page f =
      lines (openingLines f ++ ["**No API inconsistencies detected.**"] ++ ["", endMarker, ""]) ↔
    f.count = 0 := by
  constructor
  · intro h
    by_contra hcount
    have := newlines_page f
    have := frameLines_of_count_ne_zero hcount
    rw [h, newlines_without_findings] at *
    omega
  · intro hcount
    rw [page, layout, layoutBody, if_pos hcount]

theorem accounts_page (f : Findings) : Accounts f (page f) := by
  have hcount : f.issues.length + f.conflicts.length + f.diagnostics.length = f.count := rfl
  constructor
  case opening =>
    refine ⟨(openingLines f).drop 2 ++ layoutBody f ++ ["", endMarker, ""], ?_⟩
    rw [page, layout, hcount]
    rfl
  case zero => rw [hcount, any_eq_false_iff]
  case none => rw [any_eq_false_iff, page_eq_none_iff]
  case some =>
    intro hany
    rw [page, layout, layoutBody, if_neg (any_eq_true_iff.mp hany), totals_eq]
  case total => exact sum_length_shownIn f
  case sections => exact List.filter_sublist
  case present => exact fun t => mem_topics
  case once => exact shown_all_perm f
  case kind => exact fun k x hx => (mem_shown.mp hx).2
  case found => exact fun k hk => shown_eq_filter hk
  case conflicts => exact ⟨_, isReportOrder_sortedConflicts f.conflicts, rfl⟩
  case height => exact fun h => newlines_page_of_forall h

end Account

/-- A report is written just if both numbers of the summary have few enough digits; it then tells
how many findings there are, and shows each of them once. -/
theorem accounts_markdown (f : Findings) :
    (HasShortCounts f → ∃ report, markdown f = .ok report ∧ Accounts f report) ∧
    (¬ HasShortCounts f → markdown f = .error {}) :=
  ⟨fun h => ⟨page f, markdown_of_hasShortCounts h, accounts_page f⟩, markdown_of_not_hasShortCounts⟩

/-- Findings of every kind have a report, unless there are so many endpoints that their number has a
digit too many. -/
theorem accounts_markdown_oversized :
    (∃ report, markdown everyKind = .ok report ∧ Accounts everyKind report) ∧
      markdown { everyKind with summary := { endpointCount := 10 ^ Number.digitLimit } } =
        .error {} := by
  refine ⟨(accounts_markdown everyKind).1 ⟨by decide, by decide⟩,
    (accounts_markdown _).2 fun h => ?_⟩
  have hshort := (Number.isShort_iff _).mp h.1
  have hbase : (10 : Int).natAbs = 10 := rfl
  rw [Int.natAbs_pow, hbase] at hshort
  exact Nat.lt_irrefl _ hshort

end ServiceContracts.Report
