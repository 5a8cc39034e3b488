import ServiceContracts.Proofs.Distinct
import ServiceContracts.Proofs.Mount.Repositories

/-!
# Mount graphs as images of the facts

A graph is the outcome of one pass over the facts of its repository: every fact mentions its names
and adds its mount or endpoint behind those before it. So nothing is lost on the way, nothing comes
twice, and the place of a mount or an endpoint in the graph is its place among the facts.

* `mention`, `nodesOf_concat` : what one mention does to the nodes;
* `Graph.register`, `collect_concat`, `collect_eq_foldl` : what one fact does to a graph, and the
  pass over all of them;
* `IsDeclared` : the kinds of the nodes;
* `Edge.IsImage`, `Endpoint.IsImage` : what a graph keeps of a fact;
* `Graph.Indexes` : the places of the mounts, node by node;
* `isImage_of_build` : all of this for the graphs that `build` returns.
-/

namespace ServiceContracts.Mount

/-! ## One pass over the facts -/

/-- A node takes a kind that is declared for it if its own one is not known. -/
def Node.learn (n : Node) (kind : OwnerKind) : Node :=
  if n.kind = .unknown then { n with kind } else n

/-- The nodes after one more mention: a name that is new becomes the last node. -/
def mention (nodes : List Node) (m : String × OwnerKind) : List Node :=
  if m.1 ∈ nodes.map Node.name then nodes.map fun n => if n.name = m.1 then n.learn m.2 else n
  else nodes ++ [{ name := m.1, kind := m.2 }]

/-- A graph after one more fact. -/
def Graph.register (g : Graph) (f : Fact) : Graph :=
  { g with
    nodes := (mentions f).foldl mention g.nodes
    edges := g.edges ++ (f.mount?.map (Edge.of g.repo)).toList
    endpoints := g.endpoints ++ (f.endpoint?.map (Endpoint.of g.repo g.endpoints.length)).toList }

/-- The nodes that some mentions describe. -/
def nodesOf (mentioned : List (String × OwnerKind)) : List Node :=
  (distinct (mentioned.map Prod.fst)).map fun name =>
    { name, kind := declaredKind mentioned name }

section Pass
variable {mentioned : List (String × OwnerKind)} {name : String}

theorem map_name_nodesOf (mentioned : List (String × OwnerKind)) :
    (nodesOf mentioned).map Node.name = distinct (mentioned.map Prod.fst) := by
  rw [nodesOf, List.map_map]
  exact List.map_id' _

theorem declaredKind_of_notMem (h : name ∉ mentioned.map Prod.fst) :
    declaredKind mentioned name = .unknown := by
  have hnone : mentioned.find? (fun m => m.1 == name && m.2 != .unknown) = none := by
    refine List.find?_eq_none.mpr fun m hm => ?_
    have hne : m.1 ≠ name := fun heq => h (heq ▸ List.mem_map_of_mem hm)
    simp [hne]
  rw [declaredKind, hnone]

/-- One more mention declares a kind for its own name, if none is known. -/
theorem declaredKind_concat (mentioned : List (String × OwnerKind)) (m : String × OwnerKind)
    (name : String) : declaredKind (mentioned ++ [m]) name =
      if m.1 = name ∧ declaredKind mentioned name = .unknown then m.2
      else declaredKind mentioned name := by
  rw [declaredKind, declaredKind, List.find?_append]
  cases hfound : mentioned.find? fun m => m.1 == name && m.2 != .unknown with
  | some first =>
    have hknown := List.find?_some hfound
    simp_all
  | none =>
    by_cases hname : m.1 = name <;> by_cases hkind : m.2 = .unknown <;> simp [hname, hkind]

/-- What one more mention does to the nodes. -/
theorem nodesOf_concat (mentioned : List (String × OwnerKind)) (m : String × OwnerKind) :
    nodesOf (mentioned ++ [m]) = mention (nodesOf mentioned) m := by
  have hlearn : (distinct (mentioned.map Prod.fst)).map (fun name =>
        ({ name, kind := declaredKind (mentioned ++ [m]) name } : Node)) =
      (nodesOf mentioned).map fun n => if n.name = m.1 then n.learn m.2 else n := by
    rw [nodesOf, List.map_map]
    apply List.map_congr_left
    intro name _
    rw [declaredKind_concat, Function.comp_apply, Node.learn]
    grind
  have hnew : m.1 ∈ (nodesOf mentioned).map Node.name ↔ m.1 ∈ mentioned.map Prod.fst := by
    rw [map_name_nodesOf, mem_distinct]
  rw [nodesOf, List.map_append, List.map_singleton, distinct_concat, List.map_append, hlearn,
    mention]
  by_cases hm : m.1 ∈ mentioned.map Prod.fst
  · rw [if_pos hm, if_pos (hnew.mpr hm), List.map_nil, List.append_nil]
  · have hkept : (nodesOf mentioned).map (fun n => if n.name = m.1 then n.learn m.2 else n) =
        nodesOf mentioned := by
      refine (List.map_congr_left fun n hn => if_neg fun heq => ?_).trans (List.map_id _)
      exact hm (hnew.mp (heq ▸ List.mem_map_of_mem hn))
    rw [if_neg hm, if_neg (mt hnew.mp hm), hkept, List.map_singleton, declaredKind_concat,
      if_pos ⟨rfl, declaredKind_of_notMem hm⟩]

theorem nodesOf_eq_foldl (mentioned : List (String × OwnerKind)) :
    nodesOf mentioned = mentioned.foldl mention [] := by
  induction mentioned using List.reverseRecOn with
  | nil => rfl
  | append_singleton mentioned m ih => rw [nodesOf_concat, ih, List.foldl_concat]

end Pass

theorem filterMap_concat {α β : Type} (f : α → Option β) (as : List α) (a : α) :
    (as ++ [a]).filterMap f = as.filterMap f ++ (f a).toList := by
  rw [List.filterMap_append, List.filterMap_eq_flatMap_toList f [a], List.flatMap_singleton]

theorem map_toList_concat {α β : Type} (f : α → β) (as : List α) (a? : Option α) :
    (as ++ a?.toList).map f = as.map f ++ (a?.map f).toList := by
  cases a? <;> simp

theorem mapIdx_toList_concat {α β : Type} (f : Nat → α → β) (as : List α) (a? : Option α) :
    (as ++ a?.toList).mapIdx f = as.mapIdx f ++ (a?.map (f (as.mapIdx f).length)).toList := by
  cases a? <;> simp

/-- What one more fact does to the collected graph. -/
theorem collect_concat (repo : String) (facts : List Fact) (f : Fact) :
    collect repo (facts ++ [f]) = (collect repo facts).register f := by
  have hnodes : nodesOf ((facts ++ [f]).flatMap mentions) =
      (mentions f).foldl mention (nodesOf (facts.flatMap mentions)) := by
    rw [List.flatMap_append, List.flatMap_singleton, nodesOf_eq_foldl, nodesOf_eq_foldl,
      List.foldl_append]
  calc collect repo (facts ++ [f])
      = { repo
          nodes := nodesOf ((facts ++ [f]).flatMap mentions)
          edges := ((facts ++ [f]).filterMap Fact.mount?).map (Edge.of repo)
          endpoints := ((facts ++ [f]).filterMap Fact.endpoint?).mapIdx (Endpoint.of repo) } := rfl
    _ = (collect repo facts).register f := by
      rw [hnodes, filterMap_concat, filterMap_concat, map_toList_concat, mapIdx_toList_concat]
      rfl

theorem collect_eq_foldl (repo : String) (facts : List Fact) :
    collect repo facts =
      facts.foldl Graph.register { repo, nodes := [], edges := [], endpoints := [] } := by
  induction facts using List.reverseRecOn with
  | nil => rfl
  | append_singleton facts f ih => rw [collect_concat, ih, List.foldl_concat]

/-! ## Nodes -/

/-- The kind that some mentions declare for a name. -/
inductive IsDeclared (mentioned : List (String × OwnerKind)) (name : String) : OwnerKind → Prop
  /-- The first mention of the name that declares a known kind declares this one. -/
  | known {front back : List (String × OwnerKind)} {kind : OwnerKind} :
      mentioned = front ++ (name, kind) :: back → kind ≠ .unknown →
      (∀ k, (name, k) ∈ front → k = .unknown) → IsDeclared mentioned name kind
  /-- No mention of the name declares a known kind. -/
  | unknown : (∀ k, (name, k) ∈ mentioned → k = .unknown) → IsDeclared mentioned name .unknown

theorem isDeclared_declaredKind (mentioned : List (String × OwnerKind)) (name : String) :
    IsDeclared mentioned name (declaredKind mentioned name) := by
  rw [declaredKind]
  split
  · next m hfound =>
    obtain ⟨hm, front, back, rfl, hfront⟩ := List.find?_eq_some_iff_append.mp hfound
    rw [Bool.and_eq_true, beq_iff_eq, bne_iff_ne] at hm
    obtain ⟨rfl, hknown⟩ := hm
    exact .known rfl hknown fun k hk => by simpa using hfront _ hk
  · next hnone =>
    exact .unknown fun k hk => by simpa using List.find?_eq_none.mp hnone _ hk

/-! ## Mounts and endpoints -/

/-- What the graph of a repository keeps of a mount. -/
structure Edge.IsImage (e : Edge) (repo : String) (m : MountFact) : Prop where
  parent : e.parent = Text.trim m.parent
  child : e.child = Text.trim m.child
  named : e.parent ≠ "" ∧ e.child ≠ ""
  mountPoint : e.mountPoint = if m.mountPoint = "" then "/" else m.mountPoint
  repo : e.repo = repo
  location : e.location = m.location

/-- What the graph of a repository keeps of the endpoint at a place among its endpoints. -/
structure Endpoint.IsImage (e : Endpoint) (repo : String) (place : Nat) (f : EndpointFact) :
    Prop where
  owner : e.owner = if Text.trim f.owner = "" then anonymousOwner else Text.trim f.owner
  method : e.method = Text.upper (Text.trim f.method)
  path : e.path = f.path
  handler : e.handler = f.handler
  repo : e.repo = repo
  location : e.location = f.location
  order : e.order = place

theorem Edge.isImage_of (repo : String) {m : MountFact} (h : ¬ HasBlankSide m) :
    (Edge.of repo m).IsImage repo m :=
  { parent := rfl
    child := rfl
    named := not_or.mp h
    mountPoint := by rw [Edge.of, orElse_eq]
    repo := rfl
    location := rfl }

theorem Endpoint.isImage_of (repo : String) (place : Nat) (f : EndpointFact) :
    (Endpoint.of repo place f).IsImage repo place f :=
  { owner := by rw [Endpoint.owner_of, ownerOf, orElse_eq]
    method := rfl
    path := rfl
    handler := rfl
    repo := rfl
    location := rfl
    order := rfl }

theorem forall₂_map {α β : Type} {R : β → α → Prop} {f : α → β} {as : List α}
    (h : ∀ a ∈ as, R (f a) a) : List.Forall₂ R (as.map f) as :=
  List.forall₂_map_left_iff.mpr (List.forall₂_same.mpr h)

/-! ## The mounts of the nodes -/

/-- The nodes hold the mounts that have them on one side: each node the places of its own ones, in
order, and all nodes together every place once. -/
structure Graph.Indexes (g : Graph) (side : Edge → String) (links : String → List Link) :
    Prop where
  increasing : ∀ n ∈ g.nodes, (positions (links n.name)).Pairwise (· < ·)
  mem_iff : ∀ n ∈ g.nodes, ∀ i,
    i ∈ positions (links n.name) ↔ ∃ e, g.edges[i]? = some e ∧ side e = n.name
  once : (g.nodes.flatMap fun n => positions (links n.name)).Perm (List.range g.edges.length)

theorem Graph.indexes {g : Graph} {side : Edge → String} {links : String → List Link}
    (hlinks : ∀ name, links name = g.links.filter fun l => side l.1 = name)
    (hnodup : (g.nodes.map Node.name).Nodup)
    (hside : ∀ e ∈ g.edges, side e ∈ g.nodes.map Node.name) : g.Indexes side links := by
  have hplaces : positions g.links = List.range g.edges.length := by
    rw [positions, Graph.links, List.zipIdx_map_snd, List.range_eq_range']
  constructor
  case increasing =>
    intro n _
    have hall : (positions g.links).Pairwise (· < ·) := hplaces ▸ List.pairwise_lt_range
    rw [hlinks]
    exact hall.sublist (List.filter_sublist.map _)
  case mem_iff =>
    intro n _ i
    rw [hlinks, positions, List.mem_map]
    constructor
    · rintro ⟨⟨e, i⟩, hl, rfl⟩
      obtain ⟨hl, hname⟩ := List.mem_filter.mp hl
      exact ⟨e, List.mem_zipIdx_iff_getElem?.mp hl, of_decide_eq_true hname⟩
    · rintro ⟨e, he, hname⟩
      exact ⟨(e, i), List.mem_filter.mpr ⟨List.mem_zipIdx_iff_getElem?.mpr he, by simpa⟩, rfl⟩
  case once =>
    have hgroups : (g.nodes.flatMap fun n => positions (links n.name)) = positions
        ((g.nodes.map Node.name).flatMap fun name => g.links.filter fun l => side l.1 = name) := by
      simp only [hlinks, positions, List.map_flatMap, List.flatMap_map]
    have hall : (g.links.filter fun l => side l.1 ∈ g.nodes.map Node.name) = g.links :=
      List.filter_eq_self.mpr fun l hl => decide_eq_true (hside l.1 (mem_edges_of_mem_links hl))
    rw [hgroups, ← hplaces]
    nth_rewrite 2 [← hall]
    exact (flatMap_filter_perm hnodup).map Prod.snd

/-! ## The whole graph -/

/-- The graph says all that the facts say about nodes, mounts and endpoints, and no more. -/
structure Graph.IsImage (g : Graph) (name : String) (facts : List Fact) : Prop where
  /-- One pass over the facts makes up the graph. -/
  pass : g = facts.foldl register { repo := name, nodes := [], edges := [], endpoints := [] }
  /-- The nodes are the names that are mentioned. -/
  mentioned : ∀ name, name ∈ g.nodes.map Node.name ↔
    name ∈ (facts.flatMap mentions).map Prod.fst
  /-- Each name is one node. -/
  once : (g.nodes.map Node.name).Nodup
  /-- The nodes are in the order in which they are first mentioned. -/
  order : (g.nodes.map Node.name).Pairwise fun a b =>
    ((facts.flatMap mentions).map Prod.fst).idxOf a <
      ((facts.flatMap mentions).map Prod.fst).idxOf b
  /-- A node has the first known kind that is declared for it. -/
  kinds : ∀ n ∈ g.nodes, IsDeclared (facts.flatMap mentions) n.name n.kind
  /-- The mounts are those of the facts, each in its place. -/
  edges : List.Forall₂ (fun e m => e.IsImage name m) g.edges (facts.filterMap Fact.mount?)
  /-- So are the endpoints, each with its place as its order. -/
  endpoints : List.Forall₂ (fun e p => e.IsImage name p.2 p.1) g.endpoints
    (facts.filterMap Fact.endpoint?).zipIdx
  incoming : g.Indexes Edge.child g.incoming
  outgoing : g.Indexes Edge.parent g.outgoing

/-- A graph that was built is the image of its facts, position by position. -/
theorem isImage_of_build {repo : String} {facts : List Fact} {g : Graph}
    (h : build repo facts = .ok g) : g.IsImage repo facts := by
  have hsides : ∀ m ∈ facts.filterMap Fact.mount?, ¬ HasBlankSide m := by
    have hok := isOk_build_iff.mp (isOk_of_build h)
    exact fun m hm hblank => hok.1 ⟨m, mem_filterMap_mount?.mp hm, hblank⟩
  obtain ⟨rfl, -⟩ := eq_collect_of_build h
  have hnodup : ((collect repo facts).nodes.map Node.name).Nodup := by
    rw [names_collect]
    exact nodup_distinct _
  constructor
  case pass => exact collect_eq_foldl repo facts
  case mentioned =>
    intro name
    rw [names_collect, mem_distinct]
  case once => exact hnodup
  case order =>
    rw [names_collect]
    exact pairwise_idxOf_distinct _
  case kinds =>
    intro n hn
    obtain ⟨name, -, rfl⟩ := List.mem_map.mp hn
    exact isDeclared_declaredKind _ name
  case edges => exact forall₂_map fun m hm => Edge.isImage_of repo (hsides m hm)
  case endpoints =>
    rw [collect, List.mapIdx_eq_zipIdx_map]
    exact forall₂_map fun p _ => Endpoint.isImage_of repo p.2 p.1
  case incoming =>
    exact Graph.indexes (fun _ => rfl) hnodup fun e he => (ends_mem_names_collect he).2
  case outgoing =>
    exact Graph.indexes (fun _ => rfl) hnodup fun e he => (ends_mem_names_collect he).1

/-- Names with blanks around them, kinds that are declared late and an endpoint without an owner. -/
theorem isImage_of_build_shop :
    let facts : List Fact := [
      .endpoint { method := " get", path := "/", owner := " ", repo := "shop" },
      .mount { parent := "users ", child := "v1", mountPoint := "", repo := "shop",
               childKind := .router },
      .endpoint { method := "post", path := "/x", owner := "v1", repo := "shop",
                  ownerKind := .app },
      .mount { parent := "app", child := " users", repo := "shop", parentKind := .app,
               childKind := .router },
      .mount { parent := "app", child := "v1", repo := "shop" }]
    let g := collect "shop" facts
    build "shop" facts = .ok g ∧ g.IsImage "shop" facts ∧
      g.nodes = [⟨"(anonymous)", .unknown⟩, ⟨"users", .router⟩, ⟨"v1", .router⟩, ⟨"app", .app⟩] ∧
      g.endpoints.map (fun e => (e.owner, e.method, e.order)) =
        [("(anonymous)", "GET", 0), ("v1", "POST", 1)] ∧
      g.nodes.map (fun n => positions (g.incoming n.name)) = [[], [1], [0, 2], []] ∧
      g.nodes.map (fun n => positions (g.outgoing n.name)) = [[], [0], [], [1, 2]] := by
  intro facts g
  have hblank : blankMount? facts = none := by decide +kernel
  have hpath : g.cycle? = none := by decide +kernel
  have hbuild : build "shop" facts = .ok g := build_of_acyclic hblank hpath
  exact ⟨hbuild, isImage_of_build hbuild, by decide +kernel, by decide +kernel, by decide +kernel,
    by decide +kernel⟩

end ServiceContracts.Mount
