import ServiceContracts.Mount.Graph

/-!
# Cycles of mounts

The graph is searched depth first from every node in order. A mount that leads back onto the trail
closes a cycle, which is the part of the trail from there on; a node whose mounts have all been
followed is done and is not entered again.
-/

namespace ServiceContracts.Mount

/-- The children of a node, in the order of its mounts. -/
def children (edges : List Edge) (name : String) : List String :=
  (edges.filter fun e => e.parent == name).map Edge.child

/-- The cycle that a mount of `child` closes, `trail` being the reversed trail to its parent. -/
def closing (child : String) (trail : List String) : List String :=
  child :: (trail.takeWhile (· != child)).reverse ++ [child]

/-- Follow all mounts from the head of `trail` on: the nodes that are done, or a cycle. The nodes
in `fresh` are those that are not on the trail. -/
def follow (edges : List Edge) (fresh trail done : List String) (name : String) :
    Except (List String) (List String) := do
  let done ← (children edges name).foldlM (fun done child =>
    if child ∈ trail then .error (closing child trail)
    else if child ∈ done then .ok done
    else if _h : child ∈ fresh then follow edges (fresh.erase child) (child :: trail) done child
    else .ok done) done
  .ok (name :: done)
termination_by fresh.length
decreasing_by
  rw [List.length_erase_of_mem ‹_›]
  have := List.length_pos_of_mem ‹child ∈ fresh›
  omega

/-- One step of the search, without the proof that it ends. -/
theorem follow_eq (edges : List Edge) (fresh trail done : List String) (name : String) :
    follow edges fresh trail done name = (do
      let done ← (children edges name).foldlM (fun done child =>
        if child ∈ trail then .error (closing child trail)
        else if child ∈ done then .ok done
        else if child ∈ fresh then follow edges (fresh.erase child) (child :: trail) done child
        else .ok done) done
      .ok (name :: done)) := by
  rw [follow]
  simp only [dite_eq_ite]

/-- Search from every node that is not done. -/
def search (edges : List Edge) (names : List String) : Except (List String) (List String) :=
  names.foldlM (fun done name =>
    if name ∈ done then .ok done else follow edges (names.erase name) [name] done name) []

/-- The first cycle of a graph: its nodes in order, the first one again at the end. -/
def Graph.cycle? (g : Graph) : Option (List String) :=
  match search g.edges (g.nodes.map Node.name) with
  | .ok _ => none
  | .error cycle => some cycle

end ServiceContracts.Mount
