import ServiceContracts.Proofs.Mount.Maximal
import ServiceContracts.Proofs.Path.Join
import ServiceContracts.Proofs.Path.Unchanged

/-!
# Full paths

The full path of an endpoint through a chain has the segments of the mount points on the chain, from
the root down, and then those of its own path. This holds of every graph, also of one whose mounts
form a cycle: a chain is a path of mounts wherever the way up may end.

* `Graph.routed` : the endpoints of a graph with their chains, one for each row;
* `Row.IsThrough`, `isThrough_through` : what the row of an endpoint and a chain says;
* `resolve_fullPaths` : the closed form of a joined path, and the rows of every graph by it.
-/

namespace ServiceContracts.Mount

namespace Graph

/-- The endpoints with their chains, in the order of the table. -/
def routed (g : Graph) : List (Endpoint × Chain) :=
  g.endpoints.flatMap fun e => (g.chains e.owner).map (Prod.mk e)

theorem rows_eq_map_routed (g : Graph) :
    g.rows = g.routed.map fun p => p.1.through p.2 := by
  rw [rows, routed, List.map_flatMap]
  simp only [List.map_map, Function.comp_def]

end Graph

/-! ## Rows -/

/-- What the row of an endpoint and a chain says of them. -/
structure Row.IsThrough (r : Row) (e : Endpoint) (chain : Chain) : Prop where
  repo : r.repo = e.repo
  owner : r.owner = e.owner
  method : r.method = e.method
  /-- The full path starts with a slash, has no two in a row, and ends in one only if it is the
  root. -/
  front : r.fullPath.toList.head? = some '/'
  single : ¬ ['/', '/'] <:+: r.fullPath.toList
  ended : r.fullPath.toList.getLast? = some '/' → r.fullPath = "/"
  /-- The segments of the mount points come first, those of the own path last. -/
  segments : Path.segments r.fullPath.toList =
    (chain.flatMap fun l => Path.partSegments l.1.mountPoint) ++ Path.partSegments e.path

theorem isThrough_through (e : Endpoint) (chain : Chain) :
    (e.through chain).IsThrough e chain := by
  let parts := chain.map (fun l => l.1.mountPoint) ++ [e.path]
  have htidy := Path.isTidy_join parts
  constructor
  case repo => rfl
  case owner => rfl
  case method => rfl
  case front => exact htidy.front
  case single => exact Path.isSingle_iff.mp htidy.single
  case ended => exact fun hlast => String.toList_inj.mp (htidy.ended hlast)
  case segments =>
    calc Path.segments (Path.join parts).toList
        = parts.flatMap Path.partSegments := Path.segments_join parts
      _ = _ := by rw [List.flatMap_append, List.flatMap_map, List.flatMap_singleton]

/-- Numbering the rows of a table changes nothing else. -/
theorem forall₂_numbered {α : Type} {R : Row → α → Prop}
    (hR : ∀ r a order, R r a → R { r with order } a) {rows : List Row} {as : List α}
    (h : List.Forall₂ R rows as) (start : Int) : List.Forall₂ R (numbered start rows) as := by
  induction h generalizing start with
  | nil => exact .nil
  | @cons r a rows as hr _ ih =>
    rw [← List.singleton_append, numbered_append]
    exact .cons (hR r a _ hr) (ih _)

/-- A joined path is a slash and the segments of its parts, in order, with slashes between them. So
whatever the mounts and the endpoints of a graph, every row has the full path that is made of the
segments of the mount points on its chain, read from the root down, and of those of the path of its
endpoint. -/
theorem resolve_fullPaths :
    (∀ parts : List String, (Path.join parts).toList =
      '/' :: ['/'].intercalate (parts.flatMap fun part => Path.segments (Text.trim part).toList)) ∧
    ∀ (g : Graph) (start : Int),
      (∀ p ∈ g.routed, p.1 ∈ g.endpoints ∧ p.2 ∈ g.chains p.1.owner ∧ g.IsPath p.2 p.1.owner) ∧
      List.Forall₂ (fun r p => r.IsThrough p.1 p.2) (g.resolve start) g.routed := by
  refine ⟨Path.toList_join, fun g start => ⟨fun p hp => ?_, ?_⟩⟩
  · obtain ⟨e, he, hp⟩ := List.mem_flatMap.mp hp
    obtain ⟨chain, hchain, rfl⟩ := List.mem_map.mp hp
    exact ⟨he, hchain, Graph.isPath_of_mem_chains hchain⟩
  · have hrows : List.Forall₂ (fun r p => r.IsThrough p.1 p.2) g.rows g.routed := by
      rw [g.rows_eq_map_routed]
      exact List.forall₂_map_left_iff.mpr
        (List.forall₂_same.mpr fun p _ => isThrough_through p.1 p.2)
    exact forall₂_numbered (fun _ _ _ h => { h with }) hrows start

end ServiceContracts.Mount
