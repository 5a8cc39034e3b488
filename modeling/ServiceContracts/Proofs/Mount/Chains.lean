import Mathlib.Order.WellFoundedSet
import ServiceContracts.Mount.Chain
import ServiceContracts.Proofs.Mount.Fault

/-!
# Chains of a graph without cycles

In a graph that could be built no node is above itself, so the way up needs no guard: the chains are
those of the plain recursion over the mounts of a node, which ends for that reason alone.

* `wellFounded_mounts` : without a cycle the mounts are a well-founded relation;
* `Graph.unguarded` : the recursion without a guard;
* `Graph.finish_eq_flatMap` : the stack of climbs gives the chains of this recursion, in its order;
* `Graph.IsDescent` : a path of mounts from a node that nobody mounts, and `mem_unguarded_iff`, that
  the chains are these paths;
* `pairwise_unguarded` : the order of the chains;
* `mem_chains_of_build`, `chains_of_build` : all of this for the graphs that `build` returns.
-/

namespace ServiceContracts.Mount

/-- Without a cycle there is no endless way up, as the mounts have finitely many ends. -/
theorem wellFounded_mounts {edges : List Edge}
    (hacyclic : ∀ name, ¬ Relation.TransGen (Mounts edges) name name) :
    WellFounded (Mounts edges) := by
  have hstrict : IsStrictOrder String (Relation.TransGen (Mounts edges)) :=
    { irrefl := hacyclic, trans := fun _ _ _ => .trans }
  have hends := (edges.flatMap fun e => [e.parent, e.child]).finite_toSet.wellFoundedOn
    (r := Relation.TransGen (Mounts edges))
  rw [Set.wellFoundedOn_iff] at hends
  refine Subrelation.wf (fun {a b} hab => ⟨.single hab, ?_, ?_⟩) hends
  · obtain ⟨e, he, rfl, rfl⟩ := hab
    exact List.mem_flatMap.mpr ⟨e, he, by simp⟩
  · obtain ⟨e, he, rfl, rfl⟩ := hab
    exact List.mem_flatMap.mpr ⟨e, he, by simp⟩

/-- The places of the mounts of a chain in the list of all mounts. -/
def positions (chain : Chain) : List Nat := chain.map Prod.snd

theorem positions_concat (chain : Chain) (l : Link) :
    positions (chain ++ [l]) = positions chain ++ [l.2] := List.map_append

namespace Graph
variable {g : Graph}

theorem mem_incoming {name : String} {l : Link} :
    l ∈ g.incoming name ↔ l ∈ g.links ∧ l.1.child = name := by
  rw [incoming, List.mem_filter, beq_iff_eq]

theorem mem_edges_of_mem_links {l : Link} (h : l ∈ g.links) : l.1 ∈ g.edges :=
  List.fst_mem_of_mem_zipIdx h

theorem incoming_eq_nil_iff {name : String} :
    g.incoming name = [] ↔ ∀ e ∈ g.edges, e.child ≠ name := by
  have hfst : g.edges = g.links.map Prod.fst := (List.zipIdx_map_fst 0 g.edges).symm
  simp only [hfst, List.forall_mem_map, incoming, List.filter_eq_nil_iff, beq_iff_eq, ne_eq]

theorem mounts_of_mem_incoming {name : String} {l : Link} (h : l ∈ g.incoming name) :
    Mounts g.edges l.1.parent name := by
  obtain ⟨hl, rfl⟩ := mem_incoming.mp h
  exact ⟨l.1, mem_edges_of_mem_links hl, rfl, rfl⟩

/-- The mounts of a node are in the order of the list of all mounts. -/
theorem pairwise_incoming (g : Graph) (name : String) :
    (g.incoming name).Pairwise fun a b => a.2 < b.2 := by
  refine List.Pairwise.filter _ (List.pairwise_map.mp ?_)
  rw [links, List.zipIdx_map_snd]
  exact List.pairwise_lt_range'

/-! ## The recursion without a guard -/

/-- The chains down to a node: the empty one if nobody mounts it, else the chains down to the parent
of every mount, each followed by the mount. -/
def unguarded (g : Graph) (hwf : WellFounded (Mounts g.edges)) (name : String) : List Chain :=
  if (g.incoming name).isEmpty then [[]]
  else (g.incoming name).attach.flatMap fun ⟨l, _⟩ =>
    (g.unguarded hwf l.1.parent).map (· ++ [l])
termination_by hwf.wrap name
decreasing_by exact mounts_of_mem_incoming ‹_›

theorem unguarded_eq (g : Graph) (hwf : WellFounded (Mounts g.edges)) (name : String) :
    g.unguarded hwf name =
      if (g.incoming name).isEmpty then [[]]
      else (g.incoming name).flatMap fun l => (g.unguarded hwf l.1.parent).map (· ++ [l]) := by
  rw [unguarded]
  split
  · rfl
  · rw [List.flatMap_subtype (g := fun l => (g.unguarded hwf l.1.parent).map (· ++ [l]))
      (fun _ _ => rfl), List.unattach_attach]

/-! ## The stack of climbs -/

/-- All that a climb has met lies below the place that it has come to. -/
def IsAscent (g : Graph) (c : Climb) : Prop :=
  ∀ name ∈ c.met, Relation.ReflTransGen (Mounts g.edges) c.name name

theorem isAscent_start (g : Graph) (name : String) : g.IsAscent (.start name) := by
  intro met hmet
  rw [List.mem_singleton.mp hmet]
  exact .refl

theorem IsAscent.further {c d : Climb} (h : g.IsAscent c) (hd : d ∈ g.further c) :
    g.IsAscent d := by
  obtain ⟨l, hl, rfl⟩ := List.mem_map.mp hd
  have hstep := mounts_of_mem_incoming (List.mem_filter.mp hl).1
  intro name hname
  rcases List.mem_cons.mp hname with rfl | hname
  · exact .refl
  · exact .head hstep (h name hname)

/-- Without a cycle no parent has been met. -/
theorem IsAscent.not_mem_met {c : Climb} (h : g.IsAscent c) (hwf : WellFounded (Mounts g.edges))
    {l : Link} (hl : l ∈ g.incoming c.name) : l.1.parent ∉ c.met := by
  intro hmet
  have hcycle : Relation.TransGen (Mounts g.edges) l.1.parent l.1.parent :=
    .head' (mounts_of_mem_incoming hl) (h _ hmet)
  exact hwf.transGen.irrefl.irrefl _ hcycle

theorem IsAscent.further_eq {c : Climb} (h : g.IsAscent c) (hwf : WellFounded (Mounts g.edges)) :
    g.further c = (g.incoming c.name).map fun l =>
      { name := l.1.parent, chain := l :: c.chain, met := l.1.parent :: c.met } := by
  rw [Graph.further, List.filter_eq_self.mpr]
  intro l hl
  exact decide_eq_true (h.not_mem_met hwf hl)

/-- The chains of one climb, by the climbs one mount further up. -/
theorem IsAscent.unguarded_append {c : Climb} (h : g.IsAscent c)
    (hwf : WellFounded (Mounts g.edges)) :
    (g.unguarded hwf c.name).map (· ++ c.chain) =
      (if (g.further c).isEmpty then [c.chain] else []) ++
        (g.further c).flatMap fun d => (g.unguarded hwf d.name).map (· ++ d.chain) := by
  rw [unguarded_eq, h.further_eq hwf, List.isEmpty_map, List.flatMap_map]
  cases hin : g.incoming c.name with
  | nil => rfl
  | cons l ls =>
    rw [if_neg (by simp), if_neg (by simp), List.nil_append, List.map_flatMap]
    simp only [List.map_map, Function.comp_def, List.append_assoc, List.singleton_append]

/-- The stack gives the chains of the plain recursion: every climb on it is an ascent, which leaves
the guard idle. -/
theorem finish_eq_flatMap (hwf : WellFounded (Mounts g.edges)) (stack : List Climb)
    (h : ∀ c ∈ stack, g.IsAscent c) :
    g.finish stack = stack.flatMap fun c => (g.unguarded hwf c.name).map (· ++ c.chain) := by
  induction stack using finish.induct g with
  | case1 => rw [finish, List.flatMap_nil]
  | case2 c stack ih =>
    have hc := h c List.mem_cons_self
    have hnext : ∀ d ∈ g.further c ++ stack, g.IsAscent d := by
      intro d hd
      rcases List.mem_append.mp hd with hd | hd
      · exact hc.further hd
      · exact h d (List.mem_cons_of_mem _ hd)
    rw [finish, ih hnext, List.flatMap_append, ← List.append_assoc, ← hc.unguarded_append hwf,
      List.flatMap_cons]

theorem chains_eq_unguarded (hwf : WellFounded (Mounts g.edges)) (name : String) :
    g.chains name = g.unguarded hwf name := by
  rw [chains, finish_eq_flatMap hwf _ fun c hc => List.mem_singleton.mp hc ▸ isAscent_start g name]
  simp [Climb.start]

/-- The stacks that come up on the way up from a node. -/
inductive Reaches (g : Graph) (name : String) : List Climb → Prop
  | start : Reaches g name [.start name]
  | step {c : Climb} {stack : List Climb} (h : Reaches g name (c :: stack)) :
      Reaches g name (g.further c ++ stack)

theorem Reaches.isAscent {name : String} {stack : List Climb} (h : g.Reaches name stack) :
    ∀ c ∈ stack, g.IsAscent c := by
  induction h with
  | start =>
    intro c hc
    exact List.mem_singleton.mp hc ▸ isAscent_start g name
  | @step c stack _ ih =>
    intro d hd
    rcases List.mem_append.mp hd with hd | hd
    · exact (ih c List.mem_cons_self).further hd
    · exact ih d (List.mem_cons_of_mem _ hd)

/-! ## Paths of mounts -/

/-- The chain is a path of mounts from a node that nobody mounts down to `name`. -/
structure IsDescent (g : Graph) (chain : Chain) (name : String) : Prop where
  links : ∀ l ∈ chain, l ∈ g.links
  joined : chain.IsChain fun upper lower => upper.1.child = lower.1.parent
  bottom : ∀ l ∈ chain.getLast?, l.1.child = name
  top : g.incoming (chain.head?.elim name fun l => l.1.parent) = []

theorem isDescent_nil {name : String} : g.IsDescent [] name ↔ g.incoming name = [] :=
  ⟨fun h => h.top, fun h => ⟨by simp, .nil, by simp, h⟩⟩

theorem isDescent_concat {chain : Chain} {l : Link} {name : String} :
    g.IsDescent (chain ++ [l]) name ↔ l ∈ g.incoming name ∧ g.IsDescent chain l.1.parent := by
  have htop : (chain ++ [l]).head?.elim name (fun l => l.1.parent) =
      chain.head?.elim l.1.parent fun l => l.1.parent := by
    cases chain <;> rfl
  rw [mem_incoming]
  constructor
  · intro h
    have hjoined := List.isChain_append.mp h.joined
    refine ⟨⟨h.links l (by simp), h.bottom l (by simp)⟩, ?_, hjoined.1, ?_, htop ▸ h.top⟩
    · exact fun k hk => h.links k (List.mem_append_left _ hk)
    · exact fun k hk => hjoined.2.2 k hk l (by simp)
  · rintro ⟨⟨hl, rfl⟩, h⟩
    refine ⟨?_, ?_, by simp, htop ▸ h.top⟩
    · intro k hk
      rcases List.mem_append.mp hk with hk | hk
      · exact h.links k hk
      · exact List.mem_singleton.mp hk ▸ hl
    · refine List.isChain_append.mpr ⟨h.joined, List.isChain_singleton l, ?_⟩
      intro upper hupper lower hlower
      cases hlower
      exact h.bottom upper hupper

theorem mem_unguarded_iff (hwf : WellFounded (Mounts g.edges)) {chain : Chain} {name : String} :
    chain ∈ g.unguarded hwf name ↔ g.IsDescent chain name := by
  induction name using hwf.induction generalizing chain with
  | _ name ih =>
  rw [unguarded_eq]
  rcases List.eq_nil_or_concat' chain with rfl | ⟨upper, l, rfl⟩
  · rw [isDescent_nil]
    cases hin : g.incoming name <;> simp
  · rw [isDescent_concat]
    cases hin : g.incoming name with
    | nil => simp
    | cons k ks =>
      rw [if_neg (by simp), ← hin, List.mem_flatMap]
      constructor
      · rintro ⟨l', hl', hmem⟩
        obtain ⟨upper', hupper, heq⟩ := List.mem_map.mp hmem
        obtain ⟨rfl, rfl⟩ := List.append_singleton_inj.mp heq
        exact ⟨hl', (ih _ (mounts_of_mem_incoming hl')).mp hupper⟩
      · rintro ⟨hl, hupper⟩
        exact ⟨l, hl, List.mem_map_of_mem ((ih _ (mounts_of_mem_incoming hl)).mpr hupper)⟩

/-- Read from the node upwards, the chains are in the lexicographic order of their mounts. -/
theorem pairwise_unguarded (hwf : WellFounded (Mounts g.edges)) (name : String) :
    (g.unguarded hwf name).Pairwise fun a b => (positions a).reverse < (positions b).reverse := by
  induction name using hwf.induction with
  | _ name ih =>
  rw [unguarded_eq]
  split
  · exact List.pairwise_singleton _ _
  · rw [List.pairwise_flatMap]
    simp only [List.pairwise_map, List.forall_mem_map, positions_concat, List.reverse_append,
      List.reverse_singleton, List.singleton_append, List.cons_lt_cons_iff]
    refine ⟨fun l hl => ?_, (g.pairwise_incoming name).imp fun hlt _ _ _ _ => .inl hlt⟩
    exact (ih _ (mounts_of_mem_incoming hl)).imp fun hlt => .inr ⟨trivial, hlt⟩

end Graph

/-! ## Built graphs -/

section Build
variable {repo : String} {facts : List Fact} {g : Graph}

theorem eq_collect_of_build (h : build repo facts = .ok g) :
    g = collect repo facts ∧ WellFounded (Mounts g.edges) := by
  obtain ⟨m, -, hbuild⟩ | ⟨-, first, last, path, -, hbuild⟩ | ⟨-, hacyclic, hbuild⟩ :=
    build_cases repo facts
  · rw [hbuild] at h; cases h
  · rw [hbuild] at h; cases h
  · rw [hbuild] at h
    cases h
    refine ⟨rfl, wellFounded_mounts fun name hcycle => hacyclic ⟨name, ?_⟩⟩
    rwa [mounts_collect_eq] at hcycle

/-- The chains of a graph that was built are the paths of mounts from a node that nobody mounts,
each of them once. -/
theorem mem_chains_of_build (h : build repo facts = .ok g) (name : String) :
    (∀ chain, chain ∈ g.chains name ↔ g.IsDescent chain name) ∧ (g.chains name).Nodup := by
  have hwf := (eq_collect_of_build h).2
  rw [Graph.chains_eq_unguarded hwf]
  refine ⟨fun chain => Graph.mem_unguarded_iff hwf, ?_⟩
  refine (Graph.pairwise_unguarded hwf name).imp fun hlt heq => ?_
  rw [heq] at hlt
  exact List.lt_irrefl _ hlt

/-- A parent that nobody mounts is a root. -/
theorem exists_root_parent_of_build (h : build repo facts = .ok g) {e : Edge} (he : e ∈ g.edges)
    (htop : ¬ ∃ above ∈ g.edges, above.child = e.parent) :
    ∃ n ∈ g.nodes, n.name = e.parent ∧ g.role n = .root := by
  obtain ⟨rfl, -⟩ := eq_collect_of_build h
  obtain ⟨n, hn, hname⟩ := List.mem_map.mp (ends_mem_names_collect he).1
  rw [← hname] at htop
  exact ⟨n, hn, hname, Graph.role_eq_root_iff.mpr ⟨htop, .inl ⟨e, he, hname.symm⟩⟩⟩

theorem exists_root_of_build (h : build repo facts = .ok g) {l : Link} (hl : l ∈ g.links)
    (htop : g.incoming l.1.parent = []) :
    ∃ n ∈ g.nodes, n.name = l.1.parent ∧ g.role n = .root := by
  refine exists_root_parent_of_build h (Graph.mem_edges_of_mem_links hl) ?_
  rintro ⟨above, habove, hchild⟩
  exact Graph.incoming_eq_nil_iff.mp htop above habove hchild

/-- The chains of a graph that was built are those of the recursion without a guard: every path of
mounts from a node that nobody mounts down to the owner, once, in the order of the mounts read from
the owner upwards. No parent that comes up on the way has been met before, and every chain starts at
a root. -/
theorem chains_of_build (h : build repo facts = .ok g) :
    ∃ hwf : WellFounded (Mounts g.edges), ∀ e ∈ g.endpoints,
      g.chains e.owner = g.unguarded hwf e.owner ∧
      (∀ chain, chain ∈ g.chains e.owner ↔ g.IsDescent chain e.owner) ∧
      ((g.chains e.owner).map positions).Nodup ∧
      (g.chains e.owner).Pairwise (fun a b => (positions a).reverse < (positions b).reverse) ∧
      (∀ stack, g.Reaches e.owner stack →
        ∀ c ∈ stack, ∀ l ∈ g.incoming c.name, l.1.parent ∉ c.met) ∧
      ∀ chain ∈ g.chains e.owner, ∀ l ∈ chain.head?,
        ∃ n ∈ g.nodes, n.name = l.1.parent ∧ g.role n = .root := by
  have hwf := (eq_collect_of_build h).2
  refine ⟨hwf, fun e _ => ?_⟩
  rw [Graph.chains_eq_unguarded hwf]
  have horder := Graph.pairwise_unguarded hwf e.owner
  refine ⟨rfl, fun chain => Graph.mem_unguarded_iff hwf, ?_, horder, ?_, ?_⟩
  · refine List.pairwise_map.mpr (horder.imp fun hlt heq => ?_)
    rw [heq] at hlt
    exact List.lt_irrefl _ hlt
  · intro stack hstack c hc l hl
    exact (hstack.isAscent c hc).not_mem_met hwf hl
  · intro chain hchain l hl
    have hdescent := (Graph.mem_unguarded_iff hwf).mp hchain
    refine exists_root_of_build h (hdescent.links l (List.mem_of_mem_head? hl)) ?_
    have htop := hdescent.top
    rwa [Option.mem_def.mp hl] at htop

end Build

/-- A router that is mounted on two others has two chains, in the order of its own mounts. -/
theorem chains_of_build_diamond :
    let mount (parent child : String) : Fact := .mount { parent, child, repo := "shop" }
    let facts := [mount "app" "a", mount "app" "b", mount "a" "c", mount "b" "c",
      .endpoint { method := "GET", path := "/x", owner := "c", repo := "shop" }]
    let g := collect "shop" facts
    build "shop" facts = .ok g ∧ (g.chains "c").map positions = [[0, 2], [1, 3]] ∧
      ∀ e ∈ g.endpoints, ∀ chain, chain ∈ g.chains e.owner ↔ g.IsDescent chain e.owner := by
  intro mount facts g
  have hblank : blankMount? facts = none := by decide +kernel
  have hpath : g.cycle? = none := by decide +kernel
  have hbuild : build "shop" facts = .ok g := build_of_acyclic hblank hpath
  obtain ⟨hwf, hchains⟩ := chains_of_build hbuild
  exact ⟨hbuild, by decide +kernel, fun e he => (hchains e he).2.1⟩

end ServiceContracts.Mount
