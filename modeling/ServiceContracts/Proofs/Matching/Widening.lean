import ServiceContracts.Proofs.Boundary.Widening
import ServiceContracts.Proofs.Matching.Due
import ServiceContracts.Proofs.Matching.Winner

/-!
# Matching under a wider boundary

A call inside a boundary is placed alike under a wider one and is served by the same row, so a row
that is consumed stays so, and with more rows consumed no more endpoints are unused.

* `IsPlaced.of_within`, `decision_of_within` : calls that are served stay so;
* `usedKeys`, `orphans_eq` : the unused endpoints are the first rows of the keys that are not used;
* `orphans_sublist` : the more keys are used, the fewer endpoints are reported;
* `orphans_run_sublist` : so it is under a wider boundary.
-/

namespace ServiceContracts.Matching
open Boundary Mount

/-! ## Served calls -/

section Served
variable {b b' : Boundary} {rows : List Row} {calls : List CallFact} {c : CallFact} {v : Verb}
  {path : String} {i : Nat}

theorem IsPlaced.of_within (hb : Within b b') (h : IsPlaced b c v path) : IsPlaced b' c v path := by
  have hinside := h.inside
  cases hb.moves c.url with
  | stays hstanding hpath _ => exact ⟨h.verb, hstanding.trans hinside, hpath.trans h.path⟩
  | listed hbefore =>
    rw [hinside] at hbefore
    cases hbefore
  | enters hbefore => exact absurd hbefore h.not_isExternal

theorem decision_of_within (hb : Within b b') {table : List Place}
    (h : decision b table c = .served i) : decision b' table c = .served i := by
  obtain ⟨v, path, hplaced, hanswer⟩ := decision_eq_served_iff.mp h
  exact decision_eq_served_iff.mpr ⟨v, path, hplaced.of_within hb, hanswer⟩

theorem consumes_of_within (hb : Within b b') (h : (run b rows calls).Consumes i) :
    (run b' rows calls).Consumes i := by
  obtain ⟨hlt, c, hc, hserved⟩ := consumes_run.mp h
  exact consumes_run.mpr ⟨hlt, c, hc, decision_of_within hb hserved⟩

end Served

/-! ## Unused endpoints -/

/-- The row without its mark. -/
def unmarked (r : Row) : Row := { r with consumed := false }

/-- The keys of the rows that are consumed. -/
def usedKeys (rows : List Row) : List (String × String × String) :=
  (rows.filter fun r => r.consumed).map rowKey

section Unused
variable {rows rows' : List Row}

theorem mem_usedKeys {key : String × String × String} :
    key ∈ usedKeys rows ↔ ∃ r ∈ rows, rowKey r = key ∧ r.consumed = true := by
  simp only [usedKeys, List.mem_map, List.mem_filter, and_assoc]
  exact exists_congr fun r => and_congr_right fun _ => And.comm

theorem orphans_eq (rows : List Row) :
    orphans rows = (distinctBy rowKey rows).filter fun r => !(usedKeys rows).contains (rowKey r) := by
  have hused := fun rows' => filter_distinctBy rowKey (fun key => !(usedKeys rows).contains key) rows'
  show (distinctBy rowKey (rows.filter fun r => !r.consumed)).filter
    (fun r => !(usedKeys rows).contains (rowKey r)) = _
  rw [hused, hused, List.filter_filter]
  congr 1
  apply List.filter_congr
  intro r hr
  cases hconsumed : r.consumed with
  | false => simp
  | true =>
    have hkey : rowKey r ∈ usedKeys rows := List.mem_map_of_mem (List.mem_filter.mpr ⟨hr, hconsumed⟩)
    simp [hkey]

/-- What is reported of the first row of a key does not tell whether the row is consumed. -/
theorem map_orphan_unmarked (p : String × String × String → Bool) (rows : List Row) :
    ((distinctBy rowKey (rows.map unmarked)).filter fun r => p (rowKey r)).map orphan =
      ((distinctBy rowKey rows).filter fun r => p (rowKey r)).map orphan := by
  have hkey : rowKey ∘ unmarked = rowKey := rfl
  have horphan : orphan ∘ unmarked = orphan := rfl
  have hp : (fun r => p (rowKey r)) ∘ unmarked = fun r => p (rowKey r) := rfl
  rw [distinctBy_map, hkey, List.filter_map, hp, List.map_map, horphan]

/-- The reports of unused endpoints look at the marks for the used keys only. -/
theorem map_orphan_orphans (rows : List Row) : (orphans rows).map orphan =
    ((distinctBy rowKey (rows.map unmarked)).filter fun r =>
      !(usedKeys rows).contains (rowKey r)).map orphan := by
  rw [map_orphan_unmarked fun key => !(usedKeys rows).contains key, orphans_eq]

theorem orphans_sublist (hsame : rows'.map unmarked = rows.map unmarked)
    (hused : ∀ key ∈ usedKeys rows, key ∈ usedKeys rows') :
    ((orphans rows').map orphan).Sublist ((orphans rows).map orphan) := by
  rw [map_orphan_orphans, map_orphan_orphans, hsame]
  apply List.Sublist.map
  apply List.monotone_filter_right
  intro r hr
  simp only [List.contains_eq_mem, Bool.not_eq_true', decide_eq_false_iff_not] at hr ⊢
  exact mt (hused _) hr

end Unused

section Run
variable {b b' : Boundary} {rows : List Row} {calls : List CallFact}

theorem map_unmarked_run (b : Boundary) (rows : List Row) (calls : List CallFact) :
    (run b rows calls).rows.map unmarked = rows.map unmarked := by
  apply List.ext_getElem?
  intro i
  rw [List.getElem?_map, List.getElem?_map, getElem?_rows_run, Option.map_map]
  rfl

theorem mem_usedKeys_run {key : String × String × String} :
    key ∈ usedKeys (run b rows calls).rows ↔
      ∃ (i : Nat) (r : Row), rows[i]? = some r ∧ rowKey r = key ∧ (run b rows calls).Consumes i := by
  rw [mem_usedKeys]
  constructor
  · rintro ⟨marked, hmem, rfl, hconsumed⟩
    obtain ⟨i, hi⟩ := List.mem_iff_getElem?.mp hmem
    have hrow := hi
    rw [getElem?_rows_run] at hrow
    obtain ⟨r, hr, rfl⟩ := Option.map_eq_some_iff.mp hrow
    exact ⟨i, r, hr, rfl, _, hi, hconsumed⟩
  · rintro ⟨i, r, hr, rfl, marked, hi, hconsumed⟩
    refine ⟨marked, List.mem_of_getElem? hi, ?_, hconsumed⟩
    rw [getElem?_rows_run, hr] at hi
    cases hi
    rfl

/-- Under a wider boundary no other endpoints are unused. -/
theorem orphans_run_sublist (hb : Within b b') (rows : List Row) (calls : List CallFact) :
    ((orphans (run b' rows calls).rows).map orphan).Sublist
      ((orphans (run b rows calls).rows).map orphan) := by
  apply orphans_sublist
  · rw [map_unmarked_run, map_unmarked_run]
  · intro key hkey
    obtain ⟨i, r, hr, hkey, hconsumes⟩ := mem_usedKeys_run.mp hkey
    exact mem_usedKeys_run.mpr ⟨i, r, hr, hkey, consumes_of_within hb hconsumes⟩

end Run

end ServiceContracts.Matching
