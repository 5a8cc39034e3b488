import ServiceContracts.Proofs.Mount.Image
import ServiceContracts.Proofs.Mount.Roles

/-!
# Growing repositories

Facts are only ever added to a graph: a node keeps its place, its name and its kind once that is
known, and mounts and endpoints go behind those that are there. So whatever the facts behind it, the
graph of the first facts is found again in the graph of all of them; and a mount that keeps the
first facts from being built keeps all of them from being built.

* `Node.GrowsTo`, `Graph.GrowsTo` : what may become of a node, and of a graph;
* `Graph.growsTo_register`, `growsTo_collect_append` : one more fact, and any number of them;
* `Role.rank`, `Graph.GrowsTo.rank_role_le` : a node only moves up from unmounted to root to
  mounted;
* `isOk_of_append` : more facts mend no fault;
* `build_append` : both for `build`.
-/

namespace ServiceContracts.Mount

/-! ## Nodes -/

/-- What may become of a node: a kind that is not known may get known. -/
structure Node.GrowsTo (n n' : Node) : Prop where
  name : n'.name = n.name
  kind : n'.kind = n.kind ∨ n.kind = .unknown ∧ n'.kind ≠ .unknown

theorem Node.GrowsTo.refl (n : Node) : n.GrowsTo n := ⟨rfl, .inl rfl⟩

theorem Node.GrowsTo.trans {n n' n'' : Node} (h : n.GrowsTo n') (h' : n'.GrowsTo n'') :
    n.GrowsTo n'' := by
  refine ⟨h'.name.trans h.name, ?_⟩
  obtain hsame | ⟨hunknown, hknown⟩ := h.kind
  · rw [← hsame]
    exact h'.kind
  · obtain hsame' | ⟨hunknown', -⟩ := h'.kind
    · exact .inr ⟨hunknown, hsame' ▸ hknown⟩
    · exact absurd hunknown' hknown

theorem Node.growsTo_learn (n : Node) (kind : OwnerKind) : n.GrowsTo (n.learn kind) := by
  rw [learn]
  split
  · next hunknown =>
    refine ⟨rfl, ?_⟩
    by_cases hkind : kind = .unknown
    · exact .inl (hkind.trans hunknown.symm)
    · exact .inr ⟨hunknown, hkind⟩
  · exact .refl n

/-- Every node is found again in its place. -/
def NodesGrow (nodes nodes' : List Node) : Prop :=
  ∀ (i : Nat) (n : Node), nodes[i]? = some n → ∃ n', nodes'[i]? = some n' ∧ n.GrowsTo n'

section Nodes
variable {nodes nodes' nodes'' : List Node}

theorem NodesGrow.refl (nodes : List Node) : NodesGrow nodes nodes :=
  fun _ n hn => ⟨n, hn, .refl n⟩

theorem NodesGrow.trans (h : NodesGrow nodes nodes') (h' : NodesGrow nodes' nodes'') :
    NodesGrow nodes nodes'' := by
  intro i n hn
  obtain ⟨n', hn', hgrows⟩ := h i n hn
  obtain ⟨n'', hn'', hgrows'⟩ := h' i n' hn'
  exact ⟨n'', hn'', hgrows.trans hgrows'⟩

/-- One more mention changes at most the kind of one node. -/
theorem nodesGrow_mention (nodes : List Node) (m : String × OwnerKind) :
    NodesGrow nodes (mention nodes m) := by
  intro i n hn
  rw [mention]
  split
  · rw [List.getElem?_map, hn]
    refine ⟨if n.name = m.1 then n.learn m.2 else n, rfl, ?_⟩
    split
    · exact n.growsTo_learn m.2
    · exact .refl n
  · obtain ⟨hi, -⟩ := List.getElem?_eq_some_iff.mp hn
    exact ⟨n, (List.getElem?_append_left hi).trans hn, .refl n⟩

theorem nodesGrow_foldl_mention (nodes : List Node) (mentioned : List (String × OwnerKind)) :
    NodesGrow nodes (mentioned.foldl mention nodes) := by
  induction mentioned generalizing nodes with
  | nil => exact .refl nodes
  | cons m mentioned ih => exact (nodesGrow_mention nodes m).trans (ih _)

theorem NodesGrow.names_isPrefix (h : NodesGrow nodes nodes') :
    nodes.map Node.name <+: nodes'.map Node.name := by
  refine List.prefix_iff_getElem?.mpr fun i hi => ?_
  rw [List.length_map] at hi
  obtain ⟨n', hn', hgrows⟩ := h i nodes[i] (List.getElem?_eq_getElem hi)
  rw [List.getElem?_map, hn', List.getElem_map, Option.map_some, hgrows.name]

end Nodes

/-! ## Graphs -/

/-- What may become of a graph when facts are added. -/
structure Graph.GrowsTo (g g' : Graph) : Prop where
  nodes : NodesGrow g.nodes g'.nodes
  edges : g.edges <+: g'.edges
  endpoints : g.endpoints <+: g'.endpoints

namespace Graph
variable {g g' g'' : Graph}

theorem GrowsTo.refl (g : Graph) : g.GrowsTo g :=
  ⟨.refl g.nodes, List.prefix_rfl, List.prefix_rfl⟩

theorem GrowsTo.trans (h : g.GrowsTo g') (h' : g'.GrowsTo g'') : g.GrowsTo g'' :=
  ⟨h.nodes.trans h'.nodes, h.edges.trans h'.edges, h.endpoints.trans h'.endpoints⟩

/-- One more fact. -/
theorem growsTo_register (g : Graph) (f : Fact) : g.GrowsTo (g.register f) :=
  { nodes := nodesGrow_foldl_mention g.nodes (mentions f)
    edges := List.prefix_append _ _
    endpoints := List.prefix_append _ _ }

theorem growsTo_foldl_register (g : Graph) (facts : List Fact) :
    g.GrowsTo (facts.foldl register g) := by
  induction facts generalizing g with
  | nil => exact .refl g
  | cons f facts ih => exact (g.growsTo_register f).trans (ih _)

end Graph

/-- Any number of facts behind the first ones. -/
theorem growsTo_collect_append (repo : String) (facts more : List Fact) :
    (collect repo facts).GrowsTo (collect repo (facts ++ more)) := by
  rw [collect_eq_foldl repo (facts ++ more), List.foldl_append, ← collect_eq_foldl]
  exact Graph.growsTo_foldl_register _ more

/-! ## Roles -/

/-- The order in which the roles are taken on. -/
def Role.rank : Role → Nat
  | unmounted => 0
  | root => 1
  | mounted => 2

/-- Mounts and kinds that come up later take no role away. -/
theorem Graph.GrowsTo.rank_role_le {g g' : Graph} (h : g.GrowsTo g') {n n' : Node}
    (hn : n.GrowsTo n') : (g.role n).rank ≤ (g'.role n').rank := by
  have hmounted : g.role n = .mounted → g'.role n' = .mounted := by
    rw [role_eq_mounted_iff, role_eq_mounted_iff, hn.name]
    exact fun ⟨e, he, hchild⟩ => ⟨e, h.edges.subset he, hchild⟩
  have hunmounted : g'.role n' = .unmounted → g.role n = .unmounted := by
    rw [role_eq_unmounted_iff, role_eq_unmounted_iff, hn.name]
    rintro ⟨hfree, happ⟩
    refine ⟨fun e he => hfree e (h.edges.subset he), fun hkind => happ ?_⟩
    obtain hsame | ⟨hunknown, -⟩ := hn.kind
    · exact hsame.trans hkind
    · rw [hkind] at hunknown
      cases hunknown
  cases hrole : g.role n with
  | unmounted => exact Nat.zero_le _
  | root =>
    cases hrole' : g'.role n' with
    | unmounted =>
      rw [hunmounted hrole'] at hrole
      cases hrole
    | root => exact Nat.le_refl _
    | mounted => exact Nat.le_succ _
  | mounted => rw [hmounted hrole]

/-! ## Faults -/

section Build
variable {repo : String} {facts more : List Fact}

theorem declares_le_append (facts more : List Fact) : Declares facts ≤ Declares (facts ++ more) := by
  rintro parent child ⟨m, hm, hends⟩
  exact ⟨m, List.mem_append_left more hm, hends⟩

/-- A blank side stays blank and a cycle stays closed, whatever mounts follow. -/
theorem isOk_of_append (h : (build repo (facts ++ more)).isOk = true) :
    (build repo facts).isOk = true := by
  rw [isOk_build_iff] at h ⊢
  obtain ⟨hblank, hacyclic⟩ := h
  constructor
  · rintro ⟨m, hm, hside⟩
    exact hblank ⟨m, List.mem_append_left more hm, hside⟩
  · rintro ⟨name, hcycle⟩
    exact hacyclic ⟨name, Relation.TransGen.mono (declares_le_append facts more) _ _ hcycle⟩

theorem IsFirstBlank.append {m : MountFact} (h : IsFirstBlank facts m) :
    IsFirstBlank (facts ++ more) m := by
  obtain ⟨before, after, rfl, hblank, hfirst⟩ := h
  exact ⟨before, after ++ more, by simp, hblank, hfirst⟩

/-- The first mount with a blank side is the first one of all facts. -/
theorem build_append_of_unknownNode {r parent child : String}
    (h : build repo facts = .error (.unknownNode r parent child)) :
    build repo (facts ++ more) = .error (.unknownNode r parent child) := by
  obtain ⟨m, hfirst, hbuild⟩ | ⟨-, first, last, path, -, hbuild⟩ | ⟨-, -, hbuild⟩ :=
    build_cases repo facts
  · rw [← h, hbuild]
    exact build_of_blankMount? (blankMount?_eq_some_iff.mpr hfirst.append)
  · rw [hbuild] at h
    cases h
  · rw [hbuild] at h
    cases h

/-- More facts neither mend a fault nor take anything back: if all of them can be built, so can the
first ones, and what they gave is found again, every node in its place with its kind or one that was
not known before, and with its role or a higher one. The first mount with a blank side stays the one
that is reported; a cycle may give way to such a mount. -/
theorem build_append (repo : String) (facts more : List Fact) :
    (∀ f, build repo facts = .error f → ∃ f', build repo (facts ++ more) = .error f') ∧
    (∀ r parent child, build repo facts = .error (.unknownNode r parent child) →
      build repo (facts ++ more) = .error (.unknownNode r parent child)) ∧
    ∀ g', build repo (facts ++ more) = .ok g' → ∃ g, build repo facts = .ok g ∧
      g.nodes.map Node.name <+: g'.nodes.map Node.name ∧
      g.edges <+: g'.edges ∧ g.endpoints <+: g'.endpoints ∧
      ∀ (i : Nat) (n : Node), g.nodes[i]? = some n → ∃ n', g'.nodes[i]? = some n' ∧
        n'.name = n.name ∧
        (n'.kind = n.kind ∨ n.kind = .unknown ∧ n'.kind ≠ .unknown) ∧
        (g.role n).rank ≤ (g'.role n').rank := by
  refine ⟨fun f hbuild => ?_, fun _ _ _ => build_append_of_unknownNode, fun g' hbuild => ?_⟩
  · cases hmore : build repo (facts ++ more) with
    | error f' => exact ⟨f', rfl⟩
    | ok g' =>
      have hok := isOk_of_append (isOk_of_build hmore)
      rw [hbuild] at hok
      cases hok
  · have hok := isOk_of_append (isOk_of_build hbuild)
    obtain ⟨rfl, -⟩ := eq_collect_of_build hbuild
    have hgrows := growsTo_collect_append repo facts more
    refine ⟨_, build_of_isOk hok, hgrows.nodes.names_isPrefix, hgrows.edges,
      hgrows.endpoints, fun i n hn => ?_⟩
    obtain ⟨n', hn', hnode⟩ := hgrows.nodes i n hn
    exact ⟨n', hn', hnode.name, hnode.kind, hgrows.rank_role_le hnode⟩

end Build

/-- Mounts that come late make a root of one node and mount the other one, whose kind they tell. -/
theorem build_append_promoted :
    let facts : List Fact := [
      .endpoint { method := "GET", path := "/x", owner := "v1", repo := "shop" },
      .endpoint { method := "GET", path := "/y", owner := "users", repo := "shop" }]
    let more : List Fact := [
      .mount { parent := "users", child := "v1", repo := "shop", childKind := .router }]
    let g := collect "shop" facts
    let g' := collect "shop" (facts ++ more)
    build "shop" facts = .ok g ∧ build "shop" (facts ++ more) = .ok g' ∧
      g.nodes.map (fun n => (n, g.role n)) =
        [(⟨"v1", .unknown⟩, .unmounted), (⟨"users", .unknown⟩, .unmounted)] ∧
      g'.nodes.map (fun n => (n, g'.role n)) =
        [(⟨"v1", .router⟩, .mounted), (⟨"users", .unknown⟩, .root)] ∧
      g.endpoints <+: g'.endpoints := by
  intro facts more g g'
  have hblank : blankMount? (facts ++ more) = none := by decide +kernel
  have hpath : g'.cycle? = none := by decide +kernel
  have hbuild : build "shop" (facts ++ more) = .ok g' := build_of_acyclic hblank hpath
  obtain ⟨first, hfirst, -, -, hendpoints, -⟩ := (build_append "shop" facts more).2.2 g' hbuild
  obtain ⟨rfl, -⟩ := eq_collect_of_build hfirst
  exact ⟨hfirst, hbuild, by decide +kernel, by decide +kernel, hendpoints⟩

end ServiceContracts.Mount
