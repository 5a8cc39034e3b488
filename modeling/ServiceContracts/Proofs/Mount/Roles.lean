import ServiceContracts.Proofs.Mount.Chains

/-!
# The roles of the nodes

Whether a node is mounted, a root or neither is told by the mounts that it takes part in. That every
mounted node lies below a root is checked nowhere: without a cycle the way up from it ends, and it
ends at a node that nobody mounts.

* `mem_mentions_cases`, `exists_use_of_build` : a node is an end of a mount or owns an endpoint;
* `Graph.IsBelowRoot`, `isBelowRoot_of_build` : what is mounted lies below a root;
* `roles_of_build` : all of this for the graphs that `build` returns.
-/

namespace ServiceContracts.Mount

/-- Mounts lead from a root down to `name`. -/
def Graph.IsBelowRoot (g : Graph) (name : String) : Prop :=
  ∃ r ∈ g.nodes, g.role r = .root ∧ Relation.TransGen (Mounts g.edges) r.name name

/-! ## What a node is there for -/

/-- A fact mentions the two ends of its mount, or the owner of its endpoint. -/
theorem mem_mentions_cases {f : Fact} {name : String} (h : name ∈ (mentions f).map Prod.fst) :
    (∃ m, f = .mount m ∧ (Text.trim m.parent = name ∨ Text.trim m.child = name)) ∨
      ∃ e, f = .endpoint e ∧ ownerOf e = name := by
  cases f with
  | mount m =>
    left
    refine ⟨m, rfl, ?_⟩
    simpa [mentions, eq_comm] using h
  | endpoint e =>
    right
    refine ⟨e, rfl, ?_⟩
    simpa [mentions, eq_comm] using h
  | call | middleware | irrelevant => simp [mentions] at h

section Build
variable {repo : String} {facts : List Fact} {g : Graph}

theorem exists_use_of_build (h : build repo facts = .ok g) {n : Node} (hn : n ∈ g.nodes) :
    (∃ e ∈ g.edges, e.parent = n.name ∨ e.child = n.name) ∨
      ∃ e ∈ g.endpoints, e.owner = n.name := by
  obtain ⟨rfl, -⟩ := eq_collect_of_build h
  obtain ⟨f, hf, hname⟩ := mem_names_collect.mp (List.mem_map_of_mem hn)
  rcases mem_mentions_cases hname with ⟨m, rfl, hend⟩ | ⟨e, rfl, howner⟩
  · exact .inl ⟨Edge.of repo m, mem_edges_collect.mpr ⟨m, hf, rfl⟩, hend⟩
  · obtain ⟨order, he⟩ := exists_mem_collect_of_endpoint repo hf
    exact .inr ⟨Endpoint.of repo order e, he, (Endpoint.owner_of repo order e).trans howner⟩

theorem exists_owner_of_build (h : build repo facts = .ok g) {e : Endpoint}
    (he : e ∈ g.endpoints) : ∃ n ∈ g.nodes, n.name = e.owner := by
  obtain ⟨rfl, -⟩ := eq_collect_of_build h
  exact List.mem_map.mp (owner_mem_names_collect he)

/-! ## The way up -/

/-- The parent of a mount is mounted itself or it is a root, so that the way up ends at a root. -/
theorem isBelowRoot_of_build (h : build repo facts = .ok g) {name : String}
    (hname : ∃ e ∈ g.edges, e.child = name) : g.IsBelowRoot name := by
  have hwf := (eq_collect_of_build h).2
  induction name using hwf.induction with
  | _ name ih =>
  obtain ⟨e, he, rfl⟩ := hname
  have hstep : Mounts g.edges e.parent e.child := ⟨e, he, rfl, rfl⟩
  by_cases hmounted : ∃ above ∈ g.edges, above.child = e.parent
  · obtain ⟨r, hr, hroot, hpath⟩ := ih e.parent hstep hmounted
    exact ⟨r, hr, hroot, hpath.tail hstep⟩
  · obtain ⟨r, hr, hparent, hroot⟩ := exists_root_parent_of_build h he hmounted
    exact ⟨r, hr, hroot, hparent ▸ .single hstep⟩

/-- What is mounted somewhere is mounted below a root; of the rest the parents and the apps are
roots; what remains takes part in no mount and owns an endpoint. So a graph with mounts has a root,
and no endpoint is owned by a node that is cut off from all roots but takes part in mounts. -/
theorem roles_of_build (h : build repo facts = .ok g) :
    (∀ n ∈ g.nodes,
      (g.role n = .mounted ↔ ∃ e ∈ g.edges, e.child = n.name) ∧
      (g.role n = .root ↔ (¬ ∃ e ∈ g.edges, e.child = n.name) ∧
        ((∃ e ∈ g.edges, e.parent = n.name) ∨ n.kind = .app)) ∧
      (g.role n = .unmounted → (∀ e ∈ g.edges, e.parent ≠ n.name ∧ e.child ≠ n.name) ∧
        ∃ e ∈ g.endpoints, e.owner = n.name) ∧
      (g.role n = .mounted → g.IsBelowRoot n.name)) ∧
    (g.edges ≠ [] → ∃ r ∈ g.nodes, g.role r = .root) ∧
    ∀ e ∈ g.endpoints, ∃ n ∈ g.nodes, n.name = e.owner ∧
      (g.role n = .unmounted ∨ g.role n = .root ∨ g.IsBelowRoot n.name) := by
  have hbelow : ∀ n, g.role n = .mounted → g.IsBelowRoot n.name := fun n hn =>
    isBelowRoot_of_build h (Graph.role_eq_mounted_iff.mp hn)
  refine ⟨fun n hn => ⟨Graph.role_eq_mounted_iff, Graph.role_eq_root_iff, fun hrole => ?_,
    hbelow n⟩, fun hedges => ?_, fun e he => ?_⟩
  · have hfree := (Graph.role_eq_unmounted_iff.mp hrole).1
    refine ⟨hfree, (exists_use_of_build h hn).resolve_left ?_⟩
    rintro ⟨e, he, hparent | hchild⟩
    · exact (hfree e he).1 hparent
    · exact (hfree e he).2 hchild
  · obtain ⟨e, he⟩ := List.exists_mem_of_ne_nil _ hedges
    obtain ⟨r, hr, hroot, -⟩ := isBelowRoot_of_build h ⟨e, he, rfl⟩
    exact ⟨r, hr, hroot⟩
  · obtain ⟨n, hn, hname⟩ := exists_owner_of_build h he
    refine ⟨n, hn, hname, ?_⟩
    cases hrole : g.role n with
    | unmounted => exact .inl rfl
    | root => exact .inr (.inl rfl)
    | mounted => exact .inr (.inr (hbelow n hrole))

end Build

/-- A node of each role: a router two mounts below an app, and one that nobody mounts. -/
theorem roles_of_build_nested :
    let facts : List Fact := [
      .endpoint { method := "GET", path := "/x", owner := "v1", repo := "shop" },
      .mount { parent := "users", child := "v1", repo := "shop" },
      .endpoint { method := "GET", path := "/y", owner := "lost", repo := "shop" },
      .mount { parent := "app", child := "users", repo := "shop" }]
    let g := collect "shop" facts
    build "shop" facts = .ok g ∧
      g.nodes.map (fun n => (n.name, g.role n)) = [("v1", .mounted), ("users", .mounted),
        ("lost", .unmounted), ("app", .root)] ∧
      g.IsBelowRoot "v1" ∧ ∃ e ∈ g.endpoints, e.owner = "lost" := by
  intro facts g
  have hblank : blankMount? facts = none := by decide +kernel
  have hpath : g.cycle? = none := by decide +kernel
  have hbuild : build "shop" facts = .ok g := build_of_acyclic hblank hpath
  obtain ⟨hroles, -, -⟩ := roles_of_build hbuild
  refine ⟨hbuild, by decide +kernel, ?_, ?_⟩
  · exact (hroles ⟨"v1", .unknown⟩ (by decide +kernel)).2.2.2 (by decide +kernel)
  · exact ((hroles ⟨"lost", .unknown⟩ (by decide +kernel)).2.2.1 (by decide +kernel)).2

end ServiceContracts.Mount
