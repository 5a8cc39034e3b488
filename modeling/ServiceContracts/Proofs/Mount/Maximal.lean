import Mathlib.Data.List.Infix
import ServiceContracts.Proofs.Mount.Chains
import ServiceContracts.Proofs.Mount.Table

/-!
# Chains of a graph with cycles

Where the mounts form a cycle a way up ends as soon as every parent has been met, so a chain need
not start at a root. The chains down to a node are the paths of mounts that visit no node twice and
cannot be made longer at the top without doing so.

* `visited`, `Precedes` : the nodes that a chain visits, and which of two chains takes the earlier
  mount where they part;
* `Walk`, `Graph.turn`, `Graph.exists_iterate_turn` : the way up as a loop over a stack of climbs,
  which ends with the chains of the stack;
* `Graph.IsPath`, `Graph.IsSimple`, `Graph.IsMaximal` : the paths of mounts down to a node, those
  that visit no node twice, and those of these that cannot be made longer;
* `Graph.IsSimpleClimb` : a climb has met just the nodes of its chain, and none of them twice;
* `Graph.IsSimpleClimb.isMaximal_iff` : the maximal paths above a climb are those above the climbs
  one mount further up;
* `Graph.mem_finish_iff`, `Graph.pairwise_finish` : the chains of a stack are the maximal paths
  above its climbs, and they stay in the order of the climbs;
* `chains_maximal` : the chains down to a node.
-/

namespace ServiceContracts.Mount

/-! ## Chains and their order -/

/-- The nodes that a chain down to `name` visits, from the top. -/
def visited (chain : Chain) (name : String) : List String :=
  chain.map (fun l => l.1.parent) ++ [name]

theorem visited_isSuffix {back chain : Chain} (h : back <:+ chain) (name : String) :
    visited back name <:+ visited chain name := by
  obtain ⟨front, rfl⟩ := h
  refine ⟨front.map fun l => l.1.parent, ?_⟩
  rw [visited, visited, List.map_append, List.append_assoc]

/-- Above a common part the chains go on with two mounts, and the one of `a` is earlier. -/
def Precedes (a b : Chain) : Prop :=
  ∃ (common : Chain) (l k : Link), l :: common <:+ a ∧ k :: common <:+ b ∧ l.2 < k.2

theorem Precedes.mono {a b a' b' : Chain} (h : Precedes a b) (ha : a <:+ a') (hb : b <:+ b') :
    Precedes a' b' := by
  obtain ⟨common, l, k, hl, hk, hlt⟩ := h
  exact ⟨common, l, k, hl.trans ha, hk.trans hb, hlt⟩

/-- Read from the node upwards, the chains are in the lexicographic order of their mounts. -/
theorem Precedes.lt {a b : Chain} (h : Precedes a b) :
    (positions a).reverse < (positions b).reverse := by
  obtain ⟨common, l, k, ⟨above, rfl⟩, ⟨above', rfl⟩, hlt⟩ := h
  have hsplit : ∀ (above : Chain) (l : Link), (positions (above ++ l :: common)).reverse =
      (positions common).reverse ++ l.2 :: (positions above).reverse := by
    intro above l
    simp [positions]
  rw [hsplit, hsplit]
  exact List.append_left_lt (List.cons_lt_cons_iff.mpr (.inl hlt))

/-! ## The loop -/

/-- The way up under way: the climbs that are left, and the chains that have been found. -/
structure Walk where
  stack : List Climb
  found : List Chain
deriving DecidableEq, Repr

/-- The way up from a node, before its first turn. -/
def Walk.start (name : String) : Walk := { stack := [.start name], found := [] }

namespace Graph
variable {g : Graph} {name : String} {chain : Chain} {c d : Climb} {stack : List Climb}

/-- One turn of the loop. The climb on top gives way to those one step further up; if there are
none, its chain is found. -/
def turn (g : Graph) : Walk → Walk
  | { stack := [], found } => { stack := [], found }
  | { stack := c :: stack, found } =>
    { stack := g.further c ++ stack
      found := found ++ if (g.further c).isEmpty then [c.chain] else [] }

theorem load_further_append_lt (g : Graph) (c : Climb) (stack : List Climb) :
    g.load (g.further c ++ stack) < g.load (c :: stack) := by
  have hstep := g.load_further_lt c
  rw [load_append, load]
  omega

/-- The loop ends: every turn lowers the weight of the stack. Then the chains of all climbs that
were on it are found. -/
theorem exists_iterate_turn (g : Graph) (stack : List Climb) (found : List Chain) :
    ∃ n ≤ g.load stack,
      g.turn^[n] { stack, found } = { stack := [], found := found ++ g.finish stack } := by
  induction stack using finish.induct g generalizing found with
  | case1 =>
    rw [finish, List.append_nil]
    exact ⟨0, Nat.zero_le _, rfl⟩
  | case2 c stack ih =>
    obtain ⟨n, hn, hend⟩ := ih (found ++ if (g.further c).isEmpty then [c.chain] else [])
    have hlower := g.load_further_append_lt c stack
    refine ⟨n + 1, by omega, ?_⟩
    rw [Function.iterate_succ_apply, turn, hend, finish, List.append_assoc]

/-! ## Paths of mounts -/

/-- The chain is a path of mounts down to `name`, each parent before its child. -/
structure IsPath (g : Graph) (chain : Chain) (name : String) : Prop where
  links : ∀ l ∈ chain, l ∈ g.links
  joined : chain.IsChain fun upper lower => upper.1.child = lower.1.parent
  bottom : ∀ l ∈ chain.getLast?, l.1.child = name

theorem isPath_nil (g : Graph) (name : String) : g.IsPath [] name :=
  ⟨by simp, .nil, by simp⟩

/-- Where the way up along a chain has come to. -/
def topOf (chain : Chain) (name : String) : String :=
  chain.head?.elim name fun l => l.1.parent

/-- One more mount on top of a path. -/
theorem IsPath.cons {l : Link} (h : g.IsPath chain name)
    (hl : l ∈ g.incoming (topOf chain name)) : g.IsPath (l :: chain) name := by
  obtain ⟨hl, hchild⟩ := mem_incoming.mp hl
  refine ⟨List.forall_mem_cons.mpr ⟨hl, h.links⟩, h.joined.cons fun lower hlower => ?_, ?_⟩
  · rw [hchild, topOf, Option.mem_def.mp hlower]
    rfl
  · cases chain with
    | nil =>
      rintro k ⟨⟩
      exact hchild
    | cons lower chain =>
      rw [List.getLast?_cons_cons]
      exact h.bottom

/-- The mount on top of a path. -/
theorem IsPath.mem_incoming {l : Link} (h : g.IsPath (l :: chain) name) :
    l ∈ g.incoming (topOf chain name) := by
  refine Graph.mem_incoming.mpr ⟨h.links l List.mem_cons_self, ?_⟩
  cases chain with
  | nil => exact h.bottom l rfl
  | cons lower chain => exact (List.isChain_cons_cons.mp h.joined).1

/-- The lower part of a path. -/
theorem IsPath.of_isSuffix {back : Chain} (h : g.IsPath chain name) (hback : back <:+ chain) :
    g.IsPath back name where
  links l hl := h.links l (hback.subset hl)
  joined := h.joined.suffix hback
  bottom l hl := by
    obtain ⟨front, rfl⟩ := hback
    exact h.bottom l (List.mem_getLast?_append_of_mem_getLast? hl)

/-- The chain is a path of mounts down to `name` that visits no node twice. -/
structure IsSimple (g : Graph) (chain : Chain) (name : String) : Prop
    extends g.IsPath chain name where
  nodup : (visited chain name).Nodup

/-- Every mount that could be put on top of the path leads to a node that it visits already. -/
structure IsMaximal (g : Graph) (chain : Chain) (name : String) : Prop
    extends g.IsSimple chain name where
  ended : ∀ l ∈ g.incoming (topOf chain name), l.1.parent ∈ visited chain name

/-! ## The climbs and the paths above them -/

/-- The chain of the climb leads from the place that it has come to down to `name`. The climb has
met just the nodes of this chain, and none of them twice. -/
structure IsSimpleClimb (g : Graph) (name : String) (c : Climb) : Prop where
  path : g.IsPath c.chain name
  top : c.name = topOf c.chain name
  met : c.met = visited c.chain name
  nodup : c.met.Nodup

theorem isSimpleClimb_start (g : Graph) (name : String) : g.IsSimpleClimb name (.start name) :=
  { path := g.isPath_nil name, top := rfl, met := rfl, nodup := List.nodup_singleton name }

theorem isSimpleClimb_of_mem_start (g : Graph) (name : String) :
    ∀ c ∈ [Climb.start name], g.IsSimpleClimb name c := fun _ hc =>
  List.mem_singleton.mp hc ▸ g.isSimpleClimb_start name

/-- A climb goes on by every mount of its place with a parent that it has not met. -/
theorem mem_further_iff : d ∈ g.further c ↔ ∃ l ∈ g.incoming c.name, l.1.parent ∉ c.met ∧
    d = { name := l.1.parent, chain := l :: c.chain, met := l.1.parent :: c.met } := by
  simp only [further, List.mem_map, List.mem_filter, decide_eq_true_eq, and_assoc,
    eq_comm (a := d)]

theorem further_eq_nil_iff :
    g.further c = [] ↔ ∀ l ∈ g.incoming c.name, l.1.parent ∈ c.met := by
  simp [further, List.filter_eq_nil_iff]

theorem chain_isSuffix_of_mem_further (h : d ∈ g.further c) : c.chain <:+ d.chain := by
  obtain ⟨l, -, -, rfl⟩ := mem_further_iff.mp h
  exact List.suffix_cons l c.chain

theorem IsSimpleClimb.further (h : g.IsSimpleClimb name c) (hd : d ∈ g.further c) :
    g.IsSimpleClimb name d := by
  obtain ⟨l, hl, hmet, rfl⟩ := mem_further_iff.mp hd
  constructor
  case path => exact h.path.cons (h.top ▸ hl)
  case top => rfl
  case met =>
    rw [h.met]
    rfl
  case nodup => exact List.nodup_cons.mpr ⟨hmet, h.nodup⟩

theorem IsSimpleClimb.further_append (h : ∀ d ∈ c :: stack, g.IsSimpleClimb name d) :
    ∀ d ∈ g.further c ++ stack, g.IsSimpleClimb name d := by
  obtain ⟨hc, hstack⟩ := List.forall_mem_cons.mp h
  exact List.forall_mem_append.mpr ⟨fun _ => hc.further, hstack⟩

/-- A climb that cannot go on has come along a path that cannot be made longer. -/
theorem IsSimpleClimb.isMaximal_chain_iff (h : g.IsSimpleClimb name c) :
    g.IsMaximal c.chain name ↔ g.further c = [] := by
  rw [further_eq_nil_iff, h.top, h.met]
  exact ⟨fun hmax => hmax.ended,
    fun hended => { h.path with nodup := h.met ▸ h.nodup, ended := hended }⟩

/-- A simple path above a climb that goes on there takes one of the mounts the climb takes. -/
theorem IsSimpleClimb.exists_further {l : Link} (h : g.IsSimpleClimb name c)
    (hchain : g.IsSimple chain name) (hl : l :: c.chain <:+ chain) :
    ∃ d ∈ g.further c, d.chain = l :: c.chain := by
  have hincoming := (hchain.of_isSuffix hl).mem_incoming
  have hnodup : (visited (l :: c.chain) name).Nodup :=
    hchain.nodup.sublist (visited_isSuffix hl name).sublist
  have hmet : l.1.parent ∉ c.met := by
    rw [h.met]
    exact (List.nodup_cons.mp hnodup).1
  exact ⟨_, mem_further_iff.mpr ⟨l, h.top ▸ hincoming, hmet, rfl⟩, rfl⟩

/-- The maximal paths above a climb: its own chain if it cannot go on, else those above the climbs
one mount further up. -/
theorem IsSimpleClimb.isMaximal_iff (h : g.IsSimpleClimb name c) :
    c.chain <:+ chain ∧ g.IsMaximal chain name ↔
      (g.further c = [] ∧ chain = c.chain) ∨
        ∃ d ∈ g.further c, d.chain <:+ chain ∧ g.IsMaximal chain name := by
  constructor
  · rintro ⟨⟨above, rfl⟩, hmax⟩
    rcases List.eq_nil_or_concat' above with rfl | ⟨above, l, rfl⟩
    · exact .inl ⟨h.isMaximal_chain_iff.mp hmax, rfl⟩
    · have hl : l :: c.chain <:+ above ++ [l] ++ c.chain := ⟨above, by simp⟩
      obtain ⟨d, hd, hchain⟩ := h.exists_further hmax.toIsSimple hl
      exact .inr ⟨d, hd, hchain ▸ hl, hmax⟩
  · rintro (⟨hend, rfl⟩ | ⟨d, hd, hchain, hmax⟩)
    · exact ⟨List.suffix_rfl, h.isMaximal_chain_iff.mpr hend⟩
    · exact ⟨(chain_isSuffix_of_mem_further hd).trans hchain, hmax⟩

/-! ## The chains of a stack -/

theorem mem_finish_cons : chain ∈ g.finish (c :: stack) ↔
    (g.further c = [] ∧ chain = c.chain) ∨ chain ∈ g.finish (g.further c ++ stack) := by
  rw [finish, List.mem_append]
  by_cases hend : g.further c = [] <;> simp [hend]

/-- The chains of a stack are the maximal paths above its climbs. -/
theorem mem_finish_iff (h : ∀ c ∈ stack, g.IsSimpleClimb name c) :
    chain ∈ g.finish stack ↔ ∃ c ∈ stack, c.chain <:+ chain ∧ g.IsMaximal chain name := by
  induction stack using finish.induct g with
  | case1 => simp [finish]
  | case2 c stack ih =>
    have hc := h c List.mem_cons_self
    rw [mem_finish_cons, ih (IsSimpleClimb.further_append h)]
    simp only [List.mem_append, List.mem_cons, or_and_right, exists_or, exists_eq_left,
      hc.isMaximal_iff, or_assoc]

theorem mem_chains_iff : chain ∈ g.chains name ↔ g.IsMaximal chain name := by
  rw [chains, mem_finish_iff (isSimpleClimb_of_mem_start g name)]
  simp [Climb.start]

theorem isPath_of_mem_chains (h : chain ∈ g.chains name) : g.IsPath chain name :=
  (mem_chains_iff.mp h).toIsPath

/-- The climbs one mount further up part at that mount. -/
theorem pairwise_further (g : Graph) (c : Climb) :
    (g.further c).Pairwise fun d e => Precedes d.chain e.chain := by
  refine List.pairwise_map.mpr (((g.pairwise_incoming c.name).filter _).imp fun hlt => ?_)
  exact ⟨c.chain, _, _, List.suffix_rfl, List.suffix_rfl, hlt⟩

/-- Climbs that have parted stay apart, and so do the chains that they end with. -/
theorem pairwise_finish (h : ∀ c ∈ stack, g.IsSimpleClimb name c)
    (hstack : stack.Pairwise fun d e => Precedes d.chain e.chain) :
    (g.finish stack).Pairwise Precedes := by
  induction stack using finish.induct g with
  | case1 =>
    rw [finish]
    exact .nil
  | case2 c stack ih =>
    obtain ⟨hc, hstack⟩ := List.pairwise_cons.mp hstack
    have hmore : (g.finish (g.further c ++ stack)).Pairwise Precedes := by
      refine ih (IsSimpleClimb.further_append h) (List.pairwise_append.mpr
        ⟨g.pairwise_further c, hstack, fun d hd e he => ?_⟩)
      exact (hc e he).mono (chain_isSuffix_of_mem_further hd) List.suffix_rfl
    rw [finish]
    by_cases hend : g.further c = []
    · rw [hend, List.nil_append] at hmore ⊢
      refine List.pairwise_cons.mpr ⟨fun chain hchain => ?_, hmore⟩
      obtain ⟨e, he, hsuffix, -⟩ :=
        (mem_finish_iff fun e he => h e (List.mem_cons_of_mem c he)).mp hchain
      exact (hc e he).mono List.suffix_rfl hsuffix
    · rwa [if_neg (by simpa using hend), List.nil_append]

theorem pairwise_chains (g : Graph) (name : String) : (g.chains name).Pairwise Precedes :=
  pairwise_finish (isSimpleClimb_of_mem_start g name) (List.pairwise_singleton _ _)

end Graph

/-- Whatever the mounts of a graph, the loop over the climbs from a node ends, and what it has found
then is at least one chain. The chains are the paths of mounts down to the node that visit no node
twice and cannot be made longer at the top, each of them once. -/
theorem chains_maximal (g : Graph) (name : String) :
    (∃ n ≤ g.weight (.start name),
      g.turn^[n] (.start name) = { stack := [], found := g.chains name }) ∧
    g.chains name ≠ [] ∧
    (∀ chain, chain ∈ g.chains name ↔ g.IsMaximal chain name) ∧
    ((g.chains name).map positions).Nodup := by
  refine ⟨?_, g.chains_ne_nil name, fun _ => Graph.mem_chains_iff, ?_⟩
  · exact g.exists_iterate_turn [.start name] []
  · refine List.pairwise_map.mpr ((g.pairwise_chains name).imp fun hprecedes heq => ?_)
    have hlt := hprecedes.lt
    rw [heq] at hlt
    exact List.lt_irrefl _ hlt

/-- With a cycle, a loop and two mounts between the same nodes: a chain ends where every parent has
been met, and each of the two mounts has its own. -/
example :
    let mount (parent child : String) : Edge :=
      { parent, child, mountPoint := "/", repo := "shop" }
    let g : Graph := {
      repo := "shop", nodes := [⟨"app", .app⟩, ⟨"a", .router⟩, ⟨"b", .router⟩]
      edges := [mount "a" "b", mount "b" "b", mount "b" "a", mount "a" "b", mount "app" "a"]
      endpoints := [] }
    (g.chains "b").map positions = [[4, 0], [4, 3]] ∧
      (g.chains "a").map positions = [[2], [4]] := by
  decide +kernel

end ServiceContracts.Mount
