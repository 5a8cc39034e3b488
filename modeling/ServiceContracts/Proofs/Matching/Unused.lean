import ServiceContracts.Proofs.Matching.Widening

/-!
# Unused endpoints

Every key of the table is consumed through one of its rows, or it is reported, once.

* `Outcome.unused` : the endpoints that are reported as unused;
* `unused_run` : they are the first rows of the keys that are not used, in order;
* `map_key_unused_run` : their keys are the other keys of the table, each of them once;
* `unused_run_accounts` : used keys and reported ones make up the table.
-/

namespace ServiceContracts

/-- The key of the rows that an unused endpoint stands for. -/
def OrphanedEndpoint.key (e : OrphanedEndpoint) : String × String × String :=
  (e.repo, e.method, e.fullPath)

namespace Matching
open Mount

/-- What is reported of a row. -/
def unusedOf (r : Row) : OrphanedEndpoint :=
  { method := r.method, fullPath := r.fullPath, repo := r.repo, owner := r.owner,
    handler := r.handler, location := r.location }

/-- The endpoints that are reported as unused. -/
def Outcome.unused (o : Outcome) : List OrphanedEndpoint := o.issues.filterMap Issue.orphaned?

/-! ## Items and their keys -/

section Keys
variable {α β : Type} [DecidableEq β]

theorem filter_key_eq_singleton [DecidableEq α] {key : α → β} {as : List α} {a : α}
    (h : (as.map key).Nodup) (ha : a ∈ as) : as.filter (fun b => key b = key a) = [a] := by
  have hsame : as.filter (fun b => key b = key a) = as.filter (fun b => b = a) := by
    apply List.filter_congr
    intro b hb
    have : key b = key a ↔ b = a := ⟨fun heq => List.inj_on_of_nodup_map h hb ha heq, congrArg key⟩
    simp only [this]
  rw [hsame, List.filter_eq, List.count_eq_one_of_mem (List.Nodup.of_map key h) ha]
  rfl

theorem distinct_map (key : α → β) (as : List α) :
    distinct (as.map key) = (distinctBy key as).map key :=
  distinctBy_map id key as

/-- Some of the items and the others are all of them. -/
theorem length_distinct {bs part : List β} [DecidablePred fun b => b ∈ part]
    (h : ∀ b ∈ part, b ∈ bs) : (distinct bs).length =
      ((distinct bs).filter fun b => b ∉ part).length + (distinct part).length := by
  have hpart : ((distinct bs).filter fun b => b ∈ part).Perm (distinct part) := by
    apply (List.perm_ext_iff_of_nodup ((nodup_distinct bs).filter _) (nodup_distinct part)).mpr
    intro b
    rw [List.mem_filter, mem_distinct, mem_distinct, decide_eq_true_iff]
    exact ⟨fun hb => hb.2, fun hb => ⟨h b hb, hb⟩⟩
  rw [List.length_eq_length_filter_add fun b => decide (b ∈ part), hpart.length_eq, Nat.add_comm]
  simp only [decide_not]

end Keys

/-! ## Reports -/

section Run
variable {b : Boundary} {rows : List Row} {calls : List CallFact}

theorem unused_run (b : Boundary) (rows : List Row) (calls : List CallFact) :
    (run b rows calls).unused = ((distinctBy rowKey rows).filter fun r =>
      rowKey r ∉ usedKeys (run b rows calls).rows).map unusedOf := by
  have hcalls : (run b rows calls).callIssues.filterMap Issue.orphaned? = [] := by
    rw [List.filterMap_eq_nil_iff]
    intro issue hissue
    have hcall := (List.mem_filter.mp hissue).2
    cases issue with
    | orphaned o => cases hcall
    | _ => rfl
  have horphans : ∀ unused : List Row,
      (unused.map orphan).filterMap Issue.orphaned? = unused.map unusedOf := by
    intro unused
    rw [List.filterMap_map]
    exact congrFun List.filterMap_eq_map unused
  rw [Outcome.unused, issues_run, List.filterMap_append, hcalls, List.nil_append,
    map_orphan_orphans, map_unmarked_run,
    map_orphan_unmarked fun key => !(usedKeys (run b rows calls).rows).contains key, horphans]
  simp only [List.contains_eq_mem, decide_not]

theorem key_mem_of_mem_usedKeys {key : String × String × String}
    (h : key ∈ usedKeys (run b rows calls).rows) : key ∈ rows.map rowKey := by
  obtain ⟨i, r, hr, rfl, -⟩ := mem_usedKeys_run.mp h
  exact List.mem_map_of_mem (List.mem_of_getElem? hr)

theorem map_key_unused_run (b : Boundary) (rows : List Row) (calls : List CallFact) :
    (run b rows calls).unused.map OrphanedEndpoint.key =
      (distinct (rows.map rowKey)).filter fun key => key ∉ usedKeys (run b rows calls).rows := by
  have hkey : OrphanedEndpoint.key ∘ unusedOf = rowKey := rfl
  rw [unused_run, List.map_map, hkey, distinct_map, List.filter_map]
  rfl

theorem confidence_of_mem_unused {e : OrphanedEndpoint} (h : e ∈ (run b rows calls).unused) :
    e.confidence = .high := by
  rw [unused_run] at h
  obtain ⟨r, -, rfl⟩ := List.mem_map.mp h
  rfl

/-- A key of the table is used or reported once, so that the counts add up; the reports are in order
of the first row of each key and are made from it. -/
theorem unused_run_accounts (b : Boundary) (rows : List Row) (calls : List CallFact) :
    let o := run b rows calls
    (∀ key ∈ rows.map rowKey,
      ((∃ r ∈ o.rows, rowKey r = key ∧ r.consumed = true) ∧ ∀ e ∈ o.unused, e.key ≠ key) ∨
      ((∀ r ∈ o.rows, rowKey r = key → r.consumed = false) ∧
        ∃ e, e.confidence = .high ∧ o.unused.filter (fun e => e.key = key) = [e])) ∧
    (distinct (rows.map rowKey)).length = o.unused.length + (distinct (usedKeys o.rows)).length ∧
    o.unused =
      ((distinctBy rowKey rows).filter fun r => rowKey r ∉ usedKeys o.rows).map unusedOf := by
  intro o
  refine ⟨fun key hkey => ?_, ?_, unused_run b rows calls⟩
  · have hnodup : (o.unused.map OrphanedEndpoint.key).Nodup := by
      rw [map_key_unused_run]
      exact (nodup_distinct _).filter _
    have hmem : key ∈ o.unused.map OrphanedEndpoint.key ↔ key ∉ usedKeys o.rows := by
      rw [map_key_unused_run, List.mem_filter, mem_distinct, decide_eq_true_iff]
      exact and_iff_right hkey
    by_cases hused : key ∈ usedKeys o.rows
    · refine .inl ⟨mem_usedKeys.mp hused, fun e he hekey => ?_⟩
      exact hmem.mp (hekey ▸ List.mem_map_of_mem he) hused
    · refine .inr ⟨fun r hr hrkey => ?_, ?_⟩
      · by_contra hconsumed
        exact hused (mem_usedKeys.mpr ⟨r, hr, hrkey, by simpa using hconsumed⟩)
      · obtain ⟨e, he, rfl⟩ := List.mem_map.mp (hmem.mpr hused)
        exact ⟨e, confidence_of_mem_unused he, filter_key_eq_singleton hnodup he⟩
  · have hkeys := congrArg List.length (map_key_unused_run b rows calls)
    rw [List.length_map] at hkeys
    rw [hkeys]
    exact length_distinct fun key => key_mem_of_mem_usedKeys

end Run

end Matching

end ServiceContracts
