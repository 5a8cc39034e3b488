import ServiceContracts.Fact

/-!
# Mount graphs

The apps and routers of one repository and the mounts between them. A router may be mounted at
several places, so the graph need not be a tree; endpoints hang on its nodes.

* `Graph` : nodes, mounts and endpoints, each list in order of registration;
* `Graph.incoming`, `Graph.outgoing` : the mounts of a node, with their positions;
* `Graph.role` : what the mounts make of a node, with an `iff` for each role;
* `Graph.stray?` : a name that is mentioned, but is no node.
-/

namespace ServiceContracts.Mount

/-- An app or a router. -/
structure Node where
  name : String
  kind : OwnerKind := .unknown
deriving DecidableEq, Repr

/-- A mount of a child on a parent. -/
structure Edge where
  parent : String
  child : String
  mountPoint : String
  repo : String
  location : String := ""
deriving DecidableEq, Repr

/-- An endpoint on its owner, before any mount point; `order` is its place among the endpoints of
its repository. -/
structure Endpoint where
  owner : String
  method : String
  path : String
  handler : Option String := none
  repo : String
  location : String := ""
  order : Nat := 0
deriving DecidableEq, Repr

/-- What the mounts make of a node. -/
inductive Role where
  | root
  | mounted
  | unmounted
deriving DecidableEq, Repr

/-- The name of a role. -/
def Role.name : Role → String
  | root => "root"
  | mounted => "mounted"
  | unmounted => "unmounted"

structure Graph where
  repo : String
  nodes : List Node
  edges : List Edge
  endpoints : List Endpoint
deriving DecidableEq, Repr

/-- A mount with its position among the mounts of its graph. -/
abbrev Link := Edge × Nat

namespace Graph

/-- The mounts with their positions. -/
def links (g : Graph) : List Link := g.edges.zipIdx

def incoming (g : Graph) (name : String) : List Link :=
  g.links.filter fun l => l.1.child == name

def outgoing (g : Graph) (name : String) : List Link :=
  g.links.filter fun l => l.1.parent == name

/-- What the mounts make of a node: whatever is mounted somewhere is `mounted`; of the rest the
parents and the apps are roots. -/
def role (g : Graph) (n : Node) : Role :=
  if g.edges.any fun e => e.child == n.name then .mounted
  else if (g.edges.any fun e => e.parent == n.name) || n.kind = .app then .root
  else .unmounted

section Role
variable {g : Graph} {n : Node}

theorem role_eq_mounted_iff : g.role n = .mounted ↔ ∃ e ∈ g.edges, e.child = n.name := by
  rw [role]
  split
  · next h => simpa using h
  · next h =>
    refine iff_of_false ?_ (by simpa using h)
    split <;> decide

theorem role_eq_root_iff : g.role n = .root ↔ (¬ ∃ e ∈ g.edges, e.child = n.name) ∧
    ((∃ e ∈ g.edges, e.parent = n.name) ∨ n.kind = .app) := by
  rw [← role_eq_mounted_iff, role]
  split
  · exact iff_of_false (by decide) fun h => h.1 rfl
  · split
    · next h => exact iff_of_true rfl ⟨by decide, by simpa using h⟩
    · next h => exact iff_of_false (by decide) fun hroot => h (by simpa using hroot.2)

/-- Whatever is neither mounted nor a root takes part in no mount. -/
theorem role_eq_unmounted_iff : g.role n = .unmounted ↔
    (∀ e ∈ g.edges, e.parent ≠ n.name ∧ e.child ≠ n.name) ∧ n.kind ≠ .app := by
  have hrest : g.role n = .unmounted ↔ g.role n ≠ .mounted ∧ g.role n ≠ .root := by
    cases g.role n <;> decide
  rw [hrest, ne_eq, ne_eq, role_eq_mounted_iff, role_eq_root_iff]
  grind

end Role

/-- The first name that a mount or an endpoint mentions without being the name of a node; a mount
mentions its child before its parent. -/
def stray? (g : Graph) : Option String :=
  ((g.edges.flatMap fun e => [e.child, e.parent]) ++ g.endpoints.map Endpoint.owner).find?
    fun name => !g.nodes.any fun n => n.name == name

/-- The nodes with a role, in order. -/
def withRole (g : Graph) (r : Role) : List Node := g.nodes.filter fun n => g.role n = r

end Graph

end ServiceContracts.Mount
