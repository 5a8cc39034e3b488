import ServiceContracts.Proofs.Matching.Local
import ServiceContracts.Proofs.Mount.Table

/-!
# The row that a call consumes

In a table whose rows have different numbers no two rows have the same precedence, so a call that is
served has one winner, and the places of the rows in the table do not matter.

* `Wins` : the row competes and precedes all others that do;
* `decision_eq_served_iff`, `exists_served_iff_winsSome` : a call is served by the row that wins it;
* `rows_run_eq_map`, `issue?_decision_perm` : the marks and the issues as functions of the rows;
* `consumes_resolveAll` : the consumed rows of a resolved table.
-/

namespace ServiceContracts.Matching
open Mount

/-! ## Winners -/

/-- The row competes for the call and precedes all other rows that do. -/
def Wins (rows : List Row) (v : Verb) (path : String) (r : Row) : Prop :=
  Competes v path r ∧
    ∀ other ∈ rows, other ≠ r → Competes v path other → precedence r < precedence other

/-- Some of the calls has a place inside the boundary for which the row wins. -/
def WinsSome (b : Boundary) (rows : List Row) (calls : List CallFact) (r : Row) : Prop :=
  ∃ c ∈ distinctCalls calls, ∃ v path, IsPlaced b c v path ∧ Wins rows v path r

section Winner
variable {b : Boundary} {rows rows' : List Row} {calls : List CallFact} {c : CallFact} {v : Verb}
  {path : String} {i : Nat} {r : Row}

theorem eq_of_order_eq (hnodup : (rows.map Row.order).Nodup) {j : Nat} {r' : Row}
    (hr : rows[i]? = some r) (hr' : rows[j]? = some r') (h : r.order = r'.order) : i = j := by
  have hlt : i < (rows.map Row.order).length := by
    rw [List.length_map]
    exact (List.getElem?_eq_some_iff.mp hr).1
  apply (List.getElem?_inj hlt hnodup).mp
  rw [List.getElem?_map, List.getElem?_map, hr, hr', Option.map_some, Option.map_some, h]

/-- Rows with different numbers have different precedences. -/
theorem fresh_inj (hnodup : (rows.map Row.order).Nodup) :
    ∀ p ∈ fresh rows, ∀ q ∈ fresh rows, precedence p.1 = precedence q.1 → p = q := by
  rintro ⟨_, i⟩ hp ⟨_, j⟩ hq h
  obtain ⟨r, hr, rfl⟩ := mem_fresh.mp hp
  obtain ⟨r', hr', rfl⟩ := mem_fresh.mp hq
  have horder : r.order = r'.order := congrArg (fun x => (ofLex x).2) h
  obtain rfl : i = j := eq_of_order_eq hnodup hr hr' horder
  rw [hr] at hr'
  cases hr'
  rfl

theorem answer?_fresh_eq_some_iff (hnodup : (rows.map Row.order).Nodup) (hr : rows[i]? = some r) :
    answer? (fresh rows) v path = some ({ r with consumed := false }, i) ↔ Wins rows v path r := by
  have hplace : ({ r with consumed := false }, i) ∈ fresh rows := mem_fresh.mpr ⟨r, hr, rfl⟩
  rw [answer?_eq_some_iff (fresh_inj hnodup), and_iff_right hplace, competes_unmarked]
  refine and_congr_right fun _ =>
    ⟨fun h other hother hne hcompetes => ?_, fun h p hp hcompetes hne => ?_⟩
  · obtain ⟨j, hj⟩ := List.mem_iff_getElem?.mp hother
    have hlt := h ({ other with consumed := false }, j) (mem_fresh.mpr ⟨other, hj, rfl⟩)
      (competes_unmarked.mpr hcompetes) ?_
    · rwa [precedence_unmarked, precedence_unmarked] at hlt
    · intro heq
      obtain rfl : j = i := congrArg Prod.snd heq
      rw [hr] at hj
      cases hj
      exact hne rfl
  · obtain ⟨_, j⟩ := p
    obtain ⟨other, hj, rfl⟩ := mem_fresh.mp hp
    rw [precedence_unmarked, precedence_unmarked]
    refine h other (List.mem_of_getElem? hj) ?_ (competes_unmarked.mp hcompetes)
    rintro rfl
    obtain rfl : j = i := eq_of_order_eq hnodup hj hr rfl
    exact hne rfl

/-- The row at a place of the table answers a call just if it wins. -/
theorem answer?_iff_wins (hnodup : (rows.map Row.order).Nodup) (hr : rows[i]? = some r) :
    (∃ place, answer? (fresh rows) v path = some place ∧ place.2 = i) ↔ Wins rows v path r := by
  rw [← answer?_fresh_eq_some_iff hnodup hr]
  constructor
  · rintro ⟨⟨_, _⟩, hanswer, rfl⟩
    obtain ⟨⟨hplace, -⟩, -⟩ := (answer?_eq_some_iff (fresh_inj hnodup)).mp hanswer
    obtain ⟨s, hs, rfl⟩ := mem_fresh.mp hplace
    rw [hr] at hs
    cases hs
    exact hanswer
  · exact fun hanswer => ⟨_, hanswer, rfl⟩

theorem decision_eq_served_iff {table : List Place} : decision b table c = .served i ↔
    ∃ v path, IsPlaced b c v path ∧ ∃ place, answer? table v path = some place ∧ place.2 = i := by
  constructor
  · intro hserved
    have h := decides_decision b table c
    rw [hserved] at h
    cases h with
    | served h hanswer => exact ⟨_, _, h, _, hanswer, rfl⟩
  · rintro ⟨v, path, hplaced, place, hanswer, rfl⟩
    rw [decision_of_isPlaced hplaced, decisionAt, hanswer]

/-- The row at a place is consumed just if it wins some of the calls. -/
theorem exists_served_iff_winsSome (hnodup : (rows.map Row.order).Nodup) (hr : rows[i]? = some r) :
    (∃ c ∈ distinctCalls calls, decision b (fresh rows) c = .served i) ↔
      WinsSome b rows calls r := by
  simp only [WinsSome, decision_eq_served_iff, answer?_iff_wins hnodup hr]

end Winner

/-! ## The places of the rows do not matter -/

section Permutation
variable {b : Boundary} {rows rows' : List Row} {calls : List CallFact} {c : CallFact}

open Classical in
/-- The marks do not depend on the places of the rows. -/
theorem rows_run_eq_map (hnodup : (rows.map Row.order).Nodup) :
    (run b rows calls).rows =
      rows.map fun r => { r with consumed := decide (WinsSome b rows calls r) } := by
  apply List.ext_getElem?
  intro i
  rw [getElem?_rows_run, List.getElem?_map]
  cases hr : rows[i]? with
  | none => rfl
  | some r =>
    have hmark : ((distinctCalls calls).map (decision b (fresh rows))).contains (.served i) =
        decide (WinsSome b rows calls r) := by
      rw [Bool.eq_iff_iff, List.contains_iff_mem, List.mem_map, decide_eq_true_iff]
      exact exists_served_iff_winsSome hnodup hr
    rw [Option.map_some, Option.map_some, hmark]

theorem winsSome_perm (h : rows'.Perm rows) {r : Row} :
    WinsSome b rows' calls r ↔ WinsSome b rows calls r := by
  simp only [WinsSome, Wins, h.mem_iff]

theorem rows_run_perm (hnodup : (rows.map Row.order).Nodup) (h : rows'.Perm rows) :
    (run b rows' calls).rows.Perm (run b rows calls).rows := by
  have hnodup' : (rows'.map Row.order).Nodup := (h.map Row.order).nodup_iff.mpr hnodup
  classical
  have hmarks : rows'.map (fun r => { r with consumed := decide (WinsSome b rows' calls r) }) =
      rows'.map fun r => { r with consumed := decide (WinsSome b rows calls r) } :=
    List.map_congr_left fun r _ => by rw [decide_eq_decide.mpr (winsSome_perm h)]
  rw [rows_run_eq_map hnodup', rows_run_eq_map hnodup, hmarks]
  exact h.map _

theorem issue?_decision_perm (h : rows'.Perm rows) :
    (decision b (fresh rows') c).issue? = (decision b (fresh rows) c).issue? := by
  have hfst : ∀ rows, (fresh rows).map Prod.fst = rows.map fun r => { r with consumed := false } :=
    fun rows => List.zipIdx_map_fst 0 _
  apply issue?_decision_congr
  · intro v path
    rw [answer?_fresh_eq_none_iff, answer?_fresh_eq_none_iff]
    simp only [h.mem_iff]
  · intro v path
    apply supported_congr
    intro r
    rw [hfst, hfst, (h.map _).mem_iff]

theorem callIssues_run_perm_rows (h : rows'.Perm rows) :
    (run b rows' calls).callIssues = (run b rows calls).callIssues := by
  simp only [callIssues_run, issue?_decision_perm h]

end Permutation

/-- In a resolved table the number of a row is its place, and a row is consumed just if some
distinct call with a method and a path inside the boundary is served by it and by no row of lower or
equal precedence. So a call consumes one row at most, and neither the consumed rows nor the issues
about calls depend on the order in which the rows are given. -/
theorem consumes_resolveAll (b : Boundary) (graphs : List Graph) (calls : List CallFact) :
    let table := resolveAll graphs
    (∀ (i : Nat) e, table[i]? = some e → e.order = i) ∧
    (∀ (i : Nat) e, table[i]? = some e → ((run b table calls).Consumes i ↔
      ∃ c ∈ distinctCalls calls, ∃ v path, IsPlaced b c v path ∧
        ((e.method = v.name ∨ e.method = Verb.any) ∧ Route.serves e.fullPath path = true) ∧
        ∀ other ∈ table, other ≠ e →
          (other.method = v.name ∨ other.method = Verb.any) ∧
            Route.serves other.fullPath path = true → precedence e < precedence other)) ∧
    (∀ c i j, (run b table [c]).Consumes i → (run b table [c]).Consumes j → i = j) ∧
    ∀ table', table'.Perm table →
      (run b table' calls).rows.Perm (run b table calls).rows ∧
      (run b table' calls).callIssues = (run b table calls).callIssues := by
  intro table
  have hnodup := nodup_order_resolveAll graphs
  refine ⟨fun i e => order_resolveAll, fun i e he => ?_, fun c i j hi hj => ?_, fun table' h =>
    ⟨rows_run_perm hnodup h, callIssues_run_perm_rows h⟩⟩
  · rw [consumes_run, and_iff_right (List.getElem?_eq_some_iff.mp he).1]
    exact exists_served_iff_winsSome hnodup he
  · rw [consumes_run_single] at hi hj
    have hserved := hi.2.symm.trans hj.2
    cases hserved
    rfl

/-- Three rows serve the path, equally specific, one of them for all methods; the first one is
consumed, also in the reversed table. -/
theorem consumes_resolveAll_tie :
    let endpoint (order : Nat) (method path : String) : Endpoint :=
      { owner := "app", method, path, repo := "shop", order }
    let g : Graph :=
      { repo := "shop", nodes := [{ name := "app" }], edges := []
        endpoints := [endpoint 0 "ALL" "/users/*", endpoint 1 "GET" "/users/:id",
          endpoint 2 "GET" "/users/:name"] }
    let c : CallFact := { method := "get", url := "/users/7", callerRepo := "web" }
    let table := resolveAll [g]
    (run {} table [c]).Consumes 0 ∧ (∀ i, (run {} table [c]).Consumes i → i = 0) ∧
      (run {} table.reverse [c]).rows.Perm (run {} table [c]).rows := by
  intro endpoint g c table
  obtain ⟨-, -, hunique, hperm⟩ := consumes_resolveAll {} [g] [c]
  have hfirst : ((run {} table [c]).rows[0]?.map Row.consumed) = some true := by decide +kernel
  have hconsumes : (run {} table [c]).Consumes 0 := Option.map_eq_some_iff.mp hfirst
  exact ⟨hconsumes, fun i hi => hunique c i 0 hi hconsumes, (hperm _ (List.reverse_perm _)).1⟩

end ServiceContracts.Matching
