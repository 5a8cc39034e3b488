import ServiceContracts.Mount.Graph
import ServiceContracts.Path

/-!
# Mount chains and full paths

An endpoint is reached through every chain of mounts that leads from a node nobody mounts down to
its owner; its full path is made of the mount points on the chain and its own path.

* `Climb` : a place on the way up from a node. It goes on to every parent that it has not met, so
  all climbs end even if the mounts form a cycle;
* `Graph.finish` : the chains of all climbs on a stack. The stack loses weight with every step
  (`Graph.load_further_lt`);
* `Graph.chains` : the chains down to a node;
* `resolve` : the endpoints of a graph at their full paths;
* `resolveAll` : the table of several graphs, numbered from zero.
-/

namespace ServiceContracts.Mount

/-- A list of mounts, each parent before its child. -/
abbrev Chain := List Link

/-- A place on the way up from a node: the name there, the chain from it down, and the names that
were met. -/
structure Climb where
  name : String
  chain : Chain
  met : List String
deriving DecidableEq, Repr

/-- The way up from a node, before its first step. -/
def Climb.start (name : String) : Climb := { name, chain := [], met := [name] }

namespace Graph

/-- The climbs one mount further up, in the order of the mounts: one for each parent that has not
been met. -/
def further (g : Graph) (c : Climb) : List Climb :=
  ((g.incoming c.name).filter fun l => l.1.parent ∉ c.met).map fun l =>
    { name := l.1.parent, chain := l :: c.chain, met := l.1.parent :: c.met }

/-- The mounts whose parents have not been met. -/
def ahead (g : Graph) (c : Climb) : List Link := g.links.filter fun l => l.1.parent ∉ c.met

/-- A bound on the climbs that come from one with `n` mounts ahead: with every mount that is taken,
they may branch into all mounts. -/
def bound (g : Graph) : Nat → Nat
  | 0 => 1
  | n + 1 => (g.links.length + 1) * g.bound n

/-- A bound on the climbs that come from one. -/
def weight (g : Graph) (c : Climb) : Nat := g.bound (g.ahead c).length

/-- The weight of all climbs on a stack. -/
def load (g : Graph) : List Climb → Nat
  | [] => 0
  | c :: stack => g.weight c + g.load stack

/-- A step takes a mount out of those that are ahead. -/
theorem length_ahead_further_lt {g : Graph} {c d : Climb} (h : d ∈ g.further c) :
    (g.ahead d).length < (g.ahead c).length := by
  obtain ⟨l, hl, rfl⟩ := List.mem_map.mp h
  obtain ⟨hl, hmet⟩ := List.mem_filter.mp hl
  have hahead : g.ahead { name := l.1.parent, chain := l :: c.chain, met := l.1.parent :: c.met } =
      (g.ahead c).filter fun k => k.1.parent ≠ l.1.parent := by
    simp only [ahead, List.filter_filter, List.mem_cons, not_or, Bool.decide_and]
  rw [hahead]
  exact List.length_filter_lt_length_iff_exists.mpr
    ⟨l, List.mem_filter.mpr ⟨(List.mem_filter.mp hl).1, hmet⟩, by simp⟩

theorem length_further_le (g : Graph) (c : Climb) : (g.further c).length ≤ g.links.length := by
  rw [further, List.length_map]
  exact Nat.le_trans (List.length_filter_le _ _) (List.length_filter_le _ _)

theorem bound_pos (g : Graph) (n : Nat) : 0 < g.bound n := by
  induction n with
  | zero => exact Nat.one_pos
  | succ n ih => exact Nat.mul_pos (Nat.succ_pos _) ih

theorem bound_mono (g : Graph) {m n : Nat} (h : m ≤ n) : g.bound m ≤ g.bound n := by
  induction h with
  | refl => exact Nat.le_refl _
  | step _ ih => exact Nat.le_trans ih (Nat.le_mul_of_pos_left _ (Nat.succ_pos _))

theorem load_append (g : Graph) (front back : List Climb) :
    g.load (front ++ back) = g.load front + g.load back := by
  induction front with
  | nil => exact (Nat.zero_add _).symm
  | cons c front ih =>
    rw [List.cons_append, load, load, ih]
    omega

theorem load_le {g : Graph} {n : Nat} {stack : List Climb} (h : ∀ c ∈ stack, g.weight c ≤ n) :
    g.load stack ≤ stack.length * n := by
  induction stack with
  | nil => exact Nat.zero_le _
  | cons c stack ih =>
    have hc := h c List.mem_cons_self
    have hstack := ih fun d hd => h d (List.mem_cons_of_mem c hd)
    rw [load, List.length_cons, Nat.succ_mul]
    omega

theorem load_further_lt (g : Graph) (c : Climb) : g.load (g.further c) < g.weight c := by
  rw [weight]
  cases hn : (g.ahead c).length with
  | zero =>
    have hnil : g.further c = [] := by
      refine List.eq_nil_iff_forall_not_mem.mpr fun d hd => ?_
      have := length_ahead_further_lt hd
      omega
    rw [hnil]
    exact Nat.one_pos
  | succ n =>
    have hle : ∀ d ∈ g.further c, g.weight d ≤ g.bound n := by
      intro d hd
      apply bound_mono
      have := length_ahead_further_lt hd
      omega
    have hload := load_le hle
    have hlen := Nat.mul_le_mul_right (g.bound n) (g.length_further_le c)
    have hpos := g.bound_pos n
    rw [bound, Nat.succ_mul]
    omega

/-- The chains of the climbs on a stack. The climb on top goes first: it gives way to those one step
further up, or gives its chain if there are none. -/
def finish (g : Graph) : List Climb → List Chain
  | [] => []
  | c :: stack =>
    (if (g.further c).isEmpty then [c.chain] else []) ++ g.finish (g.further c ++ stack)
termination_by stack => g.load stack
decreasing_by
  rw [load_append, load]
  have := g.load_further_lt c
  omega

/-- The chains down to a node of a graph, in the order of the mounts read from the node upwards. -/
def chains (g : Graph) (name : String) : List Chain := g.finish [.start name]

end Graph

/-- An endpoint at its full path through one chain. -/
structure Row where
  method : String
  fullPath : String
  repo : String
  owner : String
  handler : Option String := none
  location : String := ""
  order : Int := 0
  consumed : Bool := false
deriving DecidableEq, Repr

/-- The row of an endpoint and one chain down to its owner, before it is numbered. -/
def Endpoint.through (e : Endpoint) (chain : Chain) : Row :=
  { method := e.method
    fullPath := Path.join (chain.map (fun l => l.1.mountPoint) ++ [e.path])
    repo := e.repo, owner := e.owner, handler := e.handler, location := e.location }

/-- Rows numbered from `start` on. -/
def numbered (start : Int) (rows : List Row) : List Row :=
  rows.zipIdx.map fun (row, i) => { row with order := start + i }

/-- The endpoints of a graph at their full paths, numbered from `start` on. -/
def Graph.resolve (g : Graph) (start : Int) : List Row :=
  numbered start (g.endpoints.flatMap fun e => (g.chains e.owner).map e.through)

/-- The endpoints of several graphs at their full paths, numbered from `start` on. -/
def resolveFrom (start : Int) : List Graph → List Row
  | [] => []
  | g :: graphs =>
    let rows := g.resolve start
    rows ++ resolveFrom (start + rows.length) graphs

def resolveAll (graphs : List Graph) : List Row := resolveFrom 0 graphs

end ServiceContracts.Mount
