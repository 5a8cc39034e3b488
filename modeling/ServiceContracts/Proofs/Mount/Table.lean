import Mathlib.Data.List.Nodup
import ServiceContracts.Mount.Chain

/-!
# The table of resolved endpoints

The rows of several graphs are numbered through, so that the number of a row is its place in the
table.

* `Graph.rows` : the rows of a graph before they are numbered, one for each chain of an endpoint;
* `resolveAll_eq_numbered` : the table is made of the rows of all graphs, in order;
* `order_resolveAll`, `nodup_order_resolveAll` : the number of a row is its place;
* `Graph.chains_ne_nil` : every endpoint has a row.
-/

namespace ServiceContracts.Mount

/-! ## Numbering -/

section Numbering
variable {start : Int} {rows : List Row}

theorem getElem?_numbered (start : Int) (rows : List Row) (i : Nat) :
    (numbered start rows)[i]? = rows[i]?.map fun r => { r with order := start + i } := by
  rw [numbered, List.getElem?_map, List.getElem?_zipIdx]
  cases rows[i]? <;> simp

theorem length_numbered (start : Int) (rows : List Row) :
    (numbered start rows).length = rows.length := by
  rw [numbered, List.length_map, List.length_zipIdx]

theorem exists_of_mem_numbered {r : Row} (h : r ∈ numbered start rows) :
    ∃ r' ∈ rows, ∃ order, r = { r' with order } := by
  obtain ⟨i, hi⟩ := List.mem_iff_getElem?.mp h
  rw [getElem?_numbered] at hi
  obtain ⟨r', hr', rfl⟩ := Option.map_eq_some_iff.mp hi
  exact ⟨r', List.mem_of_getElem? hr', _, rfl⟩

theorem numbered_append (start : Int) (front back : List Row) :
    numbered start (front ++ back) =
      numbered start front ++ numbered (start + front.length) back := by
  apply List.ext_getElem?
  intro i
  rw [List.getElem?_append, length_numbered]
  split
  · next hlt => rw [getElem?_numbered, getElem?_numbered, List.getElem?_append_left hlt]
  · next hlt =>
    have hplace : start + (i : Int) = start + front.length + (i - front.length : Nat) := by omega
    rw [getElem?_numbered, getElem?_numbered, List.getElem?_append_right (Nat.le_of_not_lt hlt),
      hplace]

end Numbering

/-! ## The rows of several graphs -/

/-- The rows of a graph before they are numbered: one for each chain of each endpoint. -/
def Graph.rows (g : Graph) : List Row :=
  g.endpoints.flatMap fun e => (g.chains e.owner).map e.through

theorem resolveFrom_eq_numbered (start : Int) (graphs : List Graph) :
    resolveFrom start graphs = numbered start (graphs.flatMap Graph.rows) := by
  induction graphs generalizing start with
  | nil => rfl
  | cons g graphs ih =>
    have hresolve : g.resolve start = numbered start g.rows := rfl
    rw [resolveFrom, List.flatMap_cons, numbered_append, ← ih, hresolve, length_numbered]

theorem resolveAll_eq_numbered (graphs : List Graph) :
    resolveAll graphs = numbered 0 (graphs.flatMap Graph.rows) :=
  resolveFrom_eq_numbered 0 graphs

theorem order_resolveAll {graphs : List Graph} {i : Nat} {r : Row}
    (h : (resolveAll graphs)[i]? = some r) : r.order = i := by
  rw [resolveAll_eq_numbered, getElem?_numbered] at h
  obtain ⟨r, -, rfl⟩ := Option.map_eq_some_iff.mp h
  exact Int.zero_add i

theorem nodup_order_resolveAll (graphs : List Graph) :
    ((resolveAll graphs).map Row.order).Nodup := by
  refine List.nodup_iff_injective_getElem.mpr fun i j h => Fin.ext ?_
  have horder : ∀ k : Fin ((resolveAll graphs).map Row.order).length,
      ((resolveAll graphs).map Row.order)[k] = (k : Nat) := by
    intro k
    rw [Fin.getElem_fin, List.getElem_map]
    exact order_resolveAll (List.getElem?_eq_getElem _)
  have hij := (horder i).symm.trans (h.trans (horder j))
  omega

/-! ## No endpoint without a row -/

namespace Graph
variable {g : Graph}

/-- Every climb gives way to others or gives its chain, so a stack that is not empty ends with a
chain. -/
theorem finish_ne_nil (g : Graph) {stack : List Climb} (h : stack ≠ []) : g.finish stack ≠ [] := by
  induction stack using finish.induct g with
  | case1 => exact absurd rfl h
  | case2 c stack ih =>
    rw [finish]
    by_cases hend : g.further c = []
    · simp [hend]
    · have hmore := ih (List.append_ne_nil_of_left_ne_nil hend stack)
      exact List.append_ne_nil_of_right_ne_nil _ hmore

theorem chains_ne_nil (g : Graph) (name : String) : g.chains name ≠ [] :=
  g.finish_ne_nil (List.cons_ne_nil _ _)

end Graph

end ServiceContracts.Mount
