import Mathlib.Logic.Function.Basic
import ServiceContracts.Proofs.Distinct
import ServiceContracts.Proofs.Matching.Answer

/-!
# Every distinct call by itself

A matching may go through the calls with one table, in which it marks the row that serves a call
before it turns to the next one. As no decision looks at the marks, this is the same as deciding
every distinct call against the fresh table, and then neither the order of the calls nor repeated
calls nor the calls of others matter.

* `advance`, `sweep` : the loop over the calls, and `run_eq_sweep`;
* `decision_fresh` : decisions do not look at the marks;
* `Outcome.callIssues`, `Outcome.orphanIssues`, `Outcome.Consumes` : the parts of an outcome;
* `exists_row_of_orphaned` : an endpoint that no call uses is a row;
* `run_local` : the outcome is put together from those of the single calls.
-/

namespace ServiceContracts.Matching
open Mount

/-! ## The loop -/

/-- The table and the issues after one more call, decided against the table as it is. -/
def advance (b : Boundary) (state : List Row × List Issue) (c : CallFact) :
    List Row × List Issue :=
  match decision b state.1.zipIdx c with
  | .served place => (state.1.modify place fun r => { r with consumed := true }, state.2)
  | .ignored => state
  | .raised issue => (state.1, state.2 ++ [issue])

/-- The matching as a loop over the distinct calls. -/
def sweep (b : Boundary) (rows : List Row) (calls : List CallFact) : Outcome :=
  let start : List Row × List Issue := (rows.map fun r => { r with consumed := false }, [])
  let last := (distinctCalls calls).foldl (advance b) start
  { issues := last.2 ++ (orphans last.1).map orphan
    rows := last.1, callCount := (distinctCalls calls).length }

/-! ## Decisions do not look at the marks -/

section Marks
variable {b : Boundary} {rows : List Row} {c : CallFact} {v : Verb} {path : String}

/-- The change keeps all that a decision reads of a row. -/
structure KeepsRoute (f : Row → Row) : Prop where
  method : ∀ r, (f r).method = r.method
  fullPath : ∀ r, (f r).fullPath = r.fullPath
  order : ∀ r, (f r).order = r.order

variable {f : Row → Row} {table : List Place}

theorem serving_map (hf : KeepsRoute f) (table : List Place) (method path : String) :
    serving (table.map (Prod.map f id)) method path =
      (serving table method path).map (Prod.map f id) := by
  simp only [serving, List.filter_map, Function.comp_def, Prod.map_fst, hf.method, hf.fullPath]

theorem bestFrom_map (hf : KeepsRoute f) (best : Place) (places : List Place) :
    bestFrom (Prod.map f id best) (places.map (Prod.map f id)) =
      Prod.map f id (bestFrom best places) := by
  induction places generalizing best with
  | nil => rfl
  | cons p places ih =>
    have hprecedes : precedes (f p.1) (f best.1) = precedes p.1 best.1 := by
      simp only [precedes, hf.fullPath, hf.order]
    simp only [List.map_cons, bestFrom, Prod.map_fst, hprecedes]
    split
    · exact ih p
    · exact ih best

theorem answer?_map (hf : KeepsRoute f) (table : List Place) (v : Verb) (path : String) :
    answer? (table.map (Prod.map f id)) v path = (answer? table v path).map (Prod.map f id) := by
  rw [answer?, serving_map hf, serving_map hf, ← List.map_append, answer?]
  cases serving table v.name path ++ serving table Verb.any path with
  | nil => rfl
  | cons p places => exact congrArg some (bestFrom_map hf p places)

theorem supported_map (hf : KeepsRoute f) (table : List Place) (v : Verb) (path : String) :
    supported (table.map (Prod.map f id)) v path = supported table v path := by
  simp only [supported, List.filter_map, List.map_map, Function.comp_def, Prod.map_fst, hf.method,
    hf.fullPath]

theorem decision_map (hf : KeepsRoute f) (b : Boundary) (table : List Place) (c : CallFact) :
    decision b (table.map (Prod.map f id)) c = decision b table c := by
  have hat : ∀ v path,
      decisionAt (table.map (Prod.map f id)) c v path = decisionAt table c v path := by
    intro v path
    simp only [decisionAt, answer?_map hf, supported_map hf]
    cases answer? table v path <;> rfl
  simp only [decision, hat]

/-- A table is decided as the fresh one is, whatever its marks. -/
theorem decision_fresh (b : Boundary) (rows : List Row) (c : CallFact) :
    decision b (fresh rows) c = decision b rows.zipIdx c := by
  have hkeeps : KeepsRoute fun r => { r with consumed := false } :=
    ⟨fun _ => rfl, fun _ => rfl, fun _ => rfl⟩
  rw [fresh, List.zipIdx_map, decision_map hkeeps]

end Marks

/-! ## The loop marks what the decisions say -/

section Loop
variable {b : Boundary} {rows : List Row}

theorem getElem?_marked (rows : List Row) (decisions : List Decision) (i : Nat) :
    (marked (fresh rows) decisions)[i]? =
      rows[i]?.map fun r => { r with consumed := decisions.contains (.served i) } := by
  rw [marked, List.getElem?_map, fresh_getElem?, Option.map_map]
  rfl

theorem fresh_marked (rows : List Row) (decisions : List Decision) :
    fresh (marked (fresh rows) decisions) = fresh rows := by
  apply List.ext_getElem?
  intro i
  rw [fresh_getElem?, fresh_getElem?, getElem?_marked, Option.map_map]
  rfl

theorem marked_concat_served (rows : List Row) (decisions : List Decision) (place : Nat) :
    (marked (fresh rows) decisions).modify place (fun r => { r with consumed := true }) =
      marked (fresh rows) (decisions ++ [.served place]) := by
  apply List.ext_getElem?
  intro i
  rw [List.getElem?_modify, getElem?_marked, getElem?_marked]
  cases rows[i]? with
  | none => rfl
  | some r =>
    by_cases hi : place = i
    · simp [hi]
    · simp [hi, Ne.symm hi]

theorem marked_concat_of_ne (rows : List Row) (decisions : List Decision) {made : Decision}
    (h : ∀ place, made ≠ .served place) :
    marked (fresh rows) (decisions ++ [made]) = marked (fresh rows) decisions := by
  apply List.ext_getElem?
  intro i
  rw [getElem?_marked, getElem?_marked]
  simp [Ne.symm (h i)]

/-- One step of the loop, after the decisions that were made before. -/
theorem advance_marked (b : Boundary) (rows : List Row) (decisions : List Decision) (c : CallFact) :
    advance b (marked (fresh rows) decisions, decisions.filterMap Decision.issue?) c =
      (marked (fresh rows) (decisions ++ [decision b (fresh rows) c]),
        (decisions ++ [decision b (fresh rows) c]).filterMap Decision.issue?) := by
  have hmade : decision b (marked (fresh rows) decisions).zipIdx c = decision b (fresh rows) c := by
    rw [← decision_fresh, fresh_marked]
  rw [advance, hmade, List.filterMap_append]
  cases decision b (fresh rows) c with
  | served place => rw [← marked_concat_served]; simp [Decision.issue?]
  | ignored => rw [marked_concat_of_ne rows decisions (by simp)]; simp [Decision.issue?]
  | raised issue => rw [marked_concat_of_ne rows decisions (by simp)]; simp [Decision.issue?]

theorem foldl_advance (b : Boundary) (rows : List Row) (decisions : List Decision)
    (calls : List CallFact) :
    calls.foldl (advance b) (marked (fresh rows) decisions, decisions.filterMap Decision.issue?) =
      (marked (fresh rows) (decisions ++ calls.map (decision b (fresh rows))),
        (decisions ++ calls.map (decision b (fresh rows))).filterMap Decision.issue?) := by
  induction calls generalizing decisions with
  | nil => simp
  | cons c calls ih =>
    rw [List.foldl_cons, advance_marked, ih, List.map_cons, List.append_assoc]
    rfl

/-- Marking the rows on the way makes no difference. -/
theorem run_eq_sweep (b : Boundary) (rows : List Row) (calls : List CallFact) :
    run b rows calls = sweep b rows calls := by
  have hstart : rows.map (fun r => { r with consumed := false }) = marked (fresh rows) [] := by
    apply List.ext_getElem?
    intro i
    rw [getElem?_marked, List.getElem?_map]
    rfl
  have hlast := foldl_advance b rows [] (distinctCalls calls)
  rw [List.nil_append, List.filterMap_nil, ← hstart] at hlast
  rw [sweep, hlast]
  rfl

end Loop

/-! ## The parts of an outcome -/

/-- The issues about calls. -/
def Outcome.callIssues (o : Outcome) : List Issue := o.issues.filter fun issue => issue.call?.isSome

/-- The issues about endpoints. -/
def Outcome.orphanIssues (o : Outcome) : List Issue :=
  o.issues.filter fun issue => issue.call?.isNone

/-- The row at a place of the table is consumed. -/
def Outcome.Consumes (o : Outcome) (i : Nat) : Prop := ∃ r, o.rows[i]? = some r ∧ r.consumed = true

section Parts
variable {b : Boundary} {rows : List Row} {calls : List CallFact}

theorem isSome_call?_of_issue? {table : List Place} {c : CallFact} {issue : Issue}
    (h : (decision b table c).issue? = some issue) : issue.call?.isSome = true := by
  obtain ⟨method, hcall, -⟩ := callKey_of_raised (issue?_eq_some_iff.mp h)
  rw [hcall]
  rfl

theorem callIssues_run (b : Boundary) (rows : List Row) (calls : List CallFact) :
    (run b rows calls).callIssues =
      (distinctCalls calls).filterMap fun c => (decision b (fresh rows) c).issue? := by
  have hcalls : ∀ issue ∈ (distinctCalls calls).filterMap
      (fun c => (decision b (fresh rows) c).issue?), issue.call?.isSome = true := by
    intro issue hissue
    obtain ⟨c, -, hc⟩ := List.mem_filterMap.mp hissue
    exact isSome_call?_of_issue? hc
  simp only [Outcome.callIssues, run, List.filterMap_map, List.filter_append, Function.comp_def]
  rw [List.filter_eq_self.mpr hcalls]
  simp [orphan_call?]

theorem orphanIssues_run (b : Boundary) (rows : List Row) (calls : List CallFact) :
    (run b rows calls).orphanIssues = (orphans (run b rows calls).rows).map orphan := by
  have hcalls : ∀ issue ∈ (distinctCalls calls).filterMap
      (fun c => (decision b (fresh rows) c).issue?), ¬ issue.call?.isNone = true := by
    intro issue hissue
    obtain ⟨c, -, hc⟩ := List.mem_filterMap.mp hissue
    simp [Option.isSome_iff_ne_none.mp (isSome_call?_of_issue? hc)]
  simp only [Outcome.orphanIssues, run, List.filterMap_map, List.filter_append, Function.comp_def]
  rw [List.filter_eq_nil_iff.mpr hcalls, List.nil_append]
  simp [orphan_call?]

theorem issues_run (b : Boundary) (rows : List Row) (calls : List CallFact) :
    (run b rows calls).issues =
      (run b rows calls).callIssues ++ (orphans (run b rows calls).rows).map orphan := by
  rw [callIssues_run]
  simp only [run, List.filterMap_map, Function.comp_def]

theorem getElem?_rows_run (b : Boundary) (rows : List Row) (calls : List CallFact) (i : Nat) :
    (run b rows calls).rows[i]? = rows[i]?.map fun r => { r with
      consumed := ((distinctCalls calls).map (decision b (fresh rows))).contains (.served i) } :=
  getElem?_marked rows _ i

/-- An endpoint that no call uses is a row. -/
theorem exists_row_of_orphaned {o : OrphanedEndpoint}
    (h : .orphaned o ∈ (run b rows calls).issues) : ∃ r ∈ rows, .orphaned o = orphan r := by
  rw [issues_run] at h
  rcases List.mem_append.mp h with hcall | horphan
  · have := (List.mem_filter.mp hcall).2
    cases this
  · obtain ⟨marked, hmarked, heq⟩ := List.mem_map.mp horphan
    have hunused := (distinctByFrom_sublist _ _ _).subset (List.mem_filter.mp hmarked).1
    obtain ⟨i, hi⟩ := List.mem_iff_getElem?.mp (List.mem_filter.mp hunused).1
    rw [getElem?_rows_run] at hi
    obtain ⟨r, hr, rfl⟩ := Option.map_eq_some_iff.mp hi
    exact ⟨r, List.mem_of_getElem? hr, heq.symm⟩

theorem consumes_run {i : Nat} : (run b rows calls).Consumes i ↔
    i < rows.length ∧ ∃ c ∈ distinctCalls calls, decision b (fresh rows) c = .served i := by
  rw [Outcome.Consumes, getElem?_rows_run]
  simp only [Option.map_eq_some_iff]
  constructor
  · rintro ⟨_, ⟨r, hr, rfl⟩, hconsumed⟩
    exact ⟨List.getElem?_eq_some_iff.mp hr |>.1, by simpa using hconsumed⟩
  · rintro ⟨hlt, hserved⟩
    exact ⟨_, ⟨_, List.getElem?_eq_getElem hlt, rfl⟩, by simpa using hserved⟩

end Parts

/-! ## Single calls -/

section Single
variable {b : Boundary} {rows : List Row} {calls calls' : List CallFact}

theorem callIssues_run_single (b : Boundary) (rows : List Row) (c : CallFact) :
    (run b rows [c]).callIssues = (decision b (fresh rows) c).issue?.toList := by
  have hsingle : distinctCalls [c] = [c] := rfl
  rw [callIssues_run, hsingle, List.filterMap_eq_flatMap_toList, List.flatMap_singleton]

theorem consumes_run_single {c : CallFact} {i : Nat} :
    (run b rows [c]).Consumes i ↔ i < rows.length ∧ decision b (fresh rows) c = .served i := by
  have hsingle : distinctCalls [c] = [c] := rfl
  rw [consumes_run, hsingle]
  simp only [List.mem_singleton, exists_eq_left]

/-- What becomes of a call is a function of what makes it distinct, but for the location. -/
theorem exists_verdict (b : Boundary) (table : List Place) :
    ∃ verdict : String × String × String → Decision,
      ∀ c, (decision b table c).unlocated = verdict (callKey c) := by
  have hfactors : Function.FactorsThrough (fun c => (decision b table c).unlocated) callKey :=
    fun _ _ h => unlocated_decision_congr h
  have : Nonempty Decision := ⟨.ignored⟩
  obtain ⟨verdict, hverdict⟩ := (Function.factorsThrough_iff _).mp hfactors
  exact ⟨verdict, fun c => congrFun hverdict c⟩

theorem unlocated_eq_served_iff {made : Decision} {i : Nat} :
    made.unlocated = .served i ↔ made = .served i := by
  cases made <;> simp [Decision.unlocated]

theorem exists_served_iff {verdict : String × String × String → Decision}
    (hverdict : ∀ c, (decision b (fresh rows) c).unlocated = verdict (callKey c)) {i : Nat} :
    (∃ c ∈ distinctCalls calls, decision b (fresh rows) c = .served i) ↔
      ∃ key ∈ calls.map callKey, verdict key = .served i := by
  constructor
  · rintro ⟨c, hc, hserved⟩
    refine ⟨callKey c, mem_map_distinctBy.mp (List.mem_map_of_mem hc), ?_⟩
    rw [← hverdict, hserved]
    rfl
  · rintro ⟨key, hkey, hserved⟩
    obtain ⟨c, hc, rfl⟩ := List.mem_map.mp (mem_map_distinctBy.mpr hkey)
    rw [← hverdict] at hserved
    exact ⟨c, hc, unlocated_eq_served_iff.mp hserved⟩

/-- Calls with the same keys consume the same rows. -/
theorem rows_run_congr (h : ∀ key, key ∈ calls'.map callKey ↔ key ∈ calls.map callKey) :
    (run b rows calls').rows = (run b rows calls).rows := by
  obtain ⟨verdict, hverdict⟩ := exists_verdict b (fresh rows)
  have hserved : ∀ i,
      ((distinctCalls calls').map (decision b (fresh rows))).contains (.served i) =
        ((distinctCalls calls).map (decision b (fresh rows))).contains (.served i) := by
    intro i
    rw [Bool.eq_iff_iff, List.contains_iff_mem, List.contains_iff_mem, List.mem_map, List.mem_map,
      exists_served_iff hverdict, exists_served_iff hverdict]
    simp only [h]
  apply List.ext_getElem?
  intro i
  simp only [run, getElem?_marked, hserved]

/-- Calls with the same keys raise the same issues, but for order and location. -/
theorem callIssues_run_perm (h : ∀ key, key ∈ calls'.map callKey ↔ key ∈ calls.map callKey) :
    ((run b rows calls').callIssues.map Issue.unlocated).Perm
      ((run b rows calls).callIssues.map Issue.unlocated) := by
  obtain ⟨verdict, hverdict⟩ := exists_verdict b (fresh rows)
  have hkeys : ∀ calls : List CallFact, (run b rows calls).callIssues.map Issue.unlocated =
      ((distinctCalls calls).map callKey).filterMap fun key => (verdict key).issue? := by
    intro calls
    simp only [callIssues_run, List.map_filterMap, List.filterMap_map, Function.comp_def,
      ← hverdict, issue?_unlocated]
  rw [hkeys, hkeys]
  exact (map_distinctBy_perm h).filterMap _

theorem callCount_run_congr (h : ∀ key, key ∈ calls'.map callKey ↔ key ∈ calls.map callKey) :
    (run b rows calls').callCount = (run b rows calls).callCount := by
  have hlength := (map_distinctBy_perm h).length_eq
  rwa [List.length_map, List.length_map] at hlength

/-- The issues about the calls of one repository are those that its calls raise by themselves. -/
theorem callIssues_run_filter (b : Boundary) (rows : List Row) (calls : List CallFact)
    (repo : String) :
    (run b rows calls).callIssues.filter (fun issue => issue.caller? == some repo) =
      (run b rows (calls.filter fun c => c.callerRepo == repo)).callIssues := by
  have hdistinct : (distinctCalls calls).filter (fun c => c.callerRepo == repo) =
      distinctCalls (calls.filter fun c => c.callerRepo == repo) :=
    filter_distinctBy callKey (fun key => key.2.2 == repo) calls
  rw [callIssues_run, callIssues_run, ← hdistinct, List.filter_filterMap, List.filterMap_filter]
  apply List.filterMap_congr
  intro c _
  cases hissue : (decision b (fresh rows) c).issue? with
  | none => simp
  | some issue =>
    obtain ⟨method, hcall, -⟩ := callKey_of_raised (issue?_eq_some_iff.mp hissue)
    simp [Issue.caller?, hcall, Option.filter]

end Single

/-- Matching is local to each distinct call, which is the first one with its key. The loop that
marks rows on its way gives what deciding every call against the unmarked table gives, so the
outcome is put together from the outcomes of the single calls: their issues in order and, behind
them, the orphans; a row is consumed if one of them consumes it. Calls with the same keys, in any
order and repeated at will, have the same outcome but for the order of the issues and the locations
in them, and the issues of a caller are those of its own calls. -/
theorem run_local (b : Boundary) (rows : List Row) (calls : List CallFact) :
    run b rows calls = sweep b rows calls ∧
    FirstOfEach callKey calls (distinctCalls calls) ∧
    (run b rows calls).callCount = (distinctCalls calls).length ∧
    (run b rows calls).issues =
      (distinctCalls calls).flatMap (fun c => (run b rows [c]).callIssues) ++
        (orphans (run b rows calls).rows).map orphan ∧
    (∀ i, (run b rows calls).Consumes i ↔
      ∃ c ∈ distinctCalls calls, (run b rows [c]).Consumes i) ∧
    (∀ calls', (∀ key, key ∈ calls'.map callKey ↔ key ∈ calls.map callKey) →
      (run b rows calls').rows = (run b rows calls).rows ∧
      (run b rows calls').orphanIssues = (run b rows calls).orphanIssues ∧
      (run b rows calls').callCount = (run b rows calls).callCount ∧
      ((run b rows calls').callIssues.map Issue.unlocated).Perm
        ((run b rows calls).callIssues.map Issue.unlocated)) ∧
    ∀ repo, (run b rows calls).callIssues.filter (fun issue => issue.caller? == some repo) =
      (run b rows (calls.filter fun c => c.callerRepo == repo)).callIssues := by
  refine ⟨run_eq_sweep b rows calls, firstOfEach_distinctBy callKey calls, rfl, ?_,
    fun i => ?_, fun calls' h => ?_,
    callIssues_run_filter b rows calls⟩
  · rw [issues_run, callIssues_run, List.filterMap_eq_flatMap_toList]
    simp only [callIssues_run_single]
  · simp only [consumes_run_single]
    rw [consumes_run]
    constructor
    · rintro ⟨hlt, c, hc, hserved⟩
      exact ⟨c, hc, hlt, hserved⟩
    · rintro ⟨c, hc, hlt, hserved⟩
      exact ⟨hlt, c, hc, hserved⟩
  · have hrows : (run b rows calls').rows = (run b rows calls).rows := rows_run_congr h
    refine ⟨hrows, ?_, callCount_run_congr h, callIssues_run_perm h⟩
    rw [orphanIssues_run, orphanIssues_run, hrows]

/-- The first call is repeated in another spelling and at another place, behind one of another
repository. -/
theorem run_local_repeated :
    let b : Boundary := {}
    let rows : List Row :=
      [{ method := "GET", fullPath := "/users", repo := "shop", owner := "app" }]
    let first : CallFact :=
      { method := "get", url := "/users", callerRepo := "web", location := "a.js:1" }
    let again : CallFact :=
      { method := " Get", url := "/users", callerRepo := "web", location := "b.js:2" }
    let other : CallFact := { method := "POST", url := "/users", callerRepo := "admin" }
    (∀ key, key ∈ [other, again, first].map callKey ↔ key ∈ [first, other].map callKey) ∧
      (run b rows [other, again, first]).rows = (run b rows [first, other]).rows ∧
      (run b rows [other, again, first]).callCount = 2 := by
  intro b rows first again other
  have hkeys : ∀ key, key ∈ [other, again, first].map callKey ↔
      key ∈ [first, other].map callKey := by
    have hsame : callKey again = callKey first := by decide
    intro key
    simp only [List.map_cons, List.map_nil, hsame, List.mem_cons, List.not_mem_nil, or_false]
    rw [or_self, or_comm]
  obtain ⟨hrows, -, hcount, -⟩ :=
    (run_local b rows [first, other]).2.2.2.2.2.1 [other, again, first] hkeys
  exact ⟨hkeys, hrows, hcount.trans (by decide)⟩

end ServiceContracts.Matching
