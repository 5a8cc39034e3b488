import Mathlib.Data.List.Chain
import Mathlib.Data.List.Nodup
import Mathlib.Logic.Relation
import ServiceContracts.Mount.Cycle

/-!
# The search finds a cycle just if there is one

* `Mounts` : the relation of the mounts, and `mem_children`, its executable form;
* `IsCycle` : a simple cycle, and `IsCycle.transGen`, that it leads a node back to itself;
* `Settled` : done nodes, each of them done after all its children. Such nodes are left by no mount
  (`Settled.closed`) and lie on no cycle (`Settled.not_transGen`);
* `IsTrail` : a simple path that is read backwards. A mount back onto it closes a simple cycle
  (`IsTrail.closing`);
* `follow_answers`, `search_answers` : the search settles its nodes or answers with a simple cycle.
-/

namespace ServiceContracts.Mount

/-- There is a mount of `child` on `parent`. -/
def Mounts (edges : List Edge) (parent child : String) : Prop :=
  ∃ e ∈ edges, e.parent = parent ∧ e.child = child

theorem mem_children {edges : List Edge} {name child : String} :
    child ∈ children edges name ↔ Mounts edges name child := by
  simp only [children, Mounts, List.mem_map, List.mem_filter, beq_iff_eq, and_assoc]

/-! ## Simple cycles -/

/-- The path leads from `first` back to it, every other node on it once, by steps of `R`; `last` is
the node before the end. -/
structure IsCycle (R : String → String → Prop) (first last : String) (path : List String) :
    Prop where
  closed : ∃ nodes, path = nodes ++ [first] ∧ nodes.Nodup ∧ nodes.head? = some first ∧
    nodes.getLast? = some last
  steps : path.IsChain R

variable {R : String → String → Prop} {first last : String} {path : List String}

theorem IsCycle.transGen (h : IsCycle R first last path) : Relation.TransGen R first first := by
  obtain ⟨nodes, rfl, -, hhead, -⟩ := h.closed
  obtain ⟨rest, rfl⟩ := List.head?_eq_some_iff.mp hhead
  obtain ⟨second, tail, hrest⟩ : ∃ second tail, rest ++ [first] = second :: tail :=
    List.exists_cons_of_ne_nil (by simp)
  have hsteps := h.steps
  rw [List.cons_append, hrest, List.isChain_cons_cons] at hsteps
  refine .head' hsteps.1 (List.relationReflTransGen_of_exists_isChain_cons tail hsteps.2 ?_)
  simp only [← hrest, List.getLast_append, List.getLast_singleton]
  simp

/-! ## Done nodes -/

variable {edges : List Edge}

/-- Done nodes, the last one in front: when a node was done, all its children were. -/
inductive Settled (edges : List Edge) : List String → Prop
  | nil : Settled edges []
  | cons {name : String} {done : List String} (children : ∀ c, Mounts edges name c → c ∈ done)
      (rest : Settled edges done) : Settled edges (name :: done)

theorem Settled.closed {done : List String} (h : Settled edges done) {a b : String}
    (ha : a ∈ done) (hab : Mounts edges a b) : b ∈ done := by
  induction h with
  | nil => cases ha
  | cons hchildren _ ih =>
    rcases List.mem_cons.mp ha with rfl | ha
    · exact List.mem_cons_of_mem _ (hchildren b hab)
    · exact List.mem_cons_of_mem _ (ih ha)

theorem Settled.closed_star {done : List String} (h : Settled edges done) {a b : String}
    (ha : a ∈ done) (hab : Relation.ReflTransGen (Mounts edges) a b) : b ∈ done := by
  induction hab with
  | refl => exact ha
  | tail _ hstep ih => exact h.closed ih hstep

/-- No done node lies on a cycle: all that it leads to was done before it. -/
theorem Settled.not_transGen {done : List String} (h : Settled edges done) {a : String}
    (ha : a ∈ done) : ¬ Relation.TransGen (Mounts edges) a a := by
  induction h with
  | nil => cases ha
  | @cons name done hchildren hrest ih =>
    by_cases hdone : a ∈ done
    · exact ih hdone
    · intro hcycle
      obtain rfl : a = name := (List.mem_cons.mp ha).resolve_right hdone
      obtain ⟨b, hab, hba⟩ := Relation.TransGen.head'_iff.mp hcycle
      exact hdone (hrest.closed_star (hchildren b hab) hba)

/-! ## Trails -/

/-- A path without repetitions, its last node in front. -/
structure IsTrail (R : String → String → Prop) (trail : List String) : Prop where
  nodup : trail.Nodup
  steps : trail.IsChain fun newer older => R older newer

theorem IsTrail.singleton (R : String → String → Prop) (name : String) : IsTrail R [name] :=
  ⟨List.nodup_singleton name, List.isChain_singleton name⟩

theorem IsTrail.push {name child : String} {rest : List String} (h : IsTrail R (name :: rest))
    (hstep : R name child) (hnew : child ∉ name :: rest) : IsTrail R (child :: name :: rest) :=
  ⟨List.nodup_cons.mpr ⟨hnew, h.nodup⟩, List.isChain_cons_cons.mpr ⟨hstep, h.steps⟩⟩

theorem closing_append {child : String} {newer older : List String} (h : child ∉ newer) :
    closing child (newer ++ child :: older) = (newer ++ [child]).reverse ++ [child] := by
  have hne : ∀ a ∈ newer, (a != child) = true := by
    intro a ha
    rw [bne_iff_ne]
    exact fun e => h (e ▸ ha)
  rw [closing, List.takeWhile_append_of_pos hne, List.takeWhile_cons_of_neg (by simp)]
  simp

/-- A step from the head of a trail back onto it closes a simple cycle. -/
theorem IsTrail.closing {name child : String} {rest : List String} (h : IsTrail R (name :: rest))
    (hstep : R name child) (hmem : child ∈ name :: rest) :
    IsCycle R child name (Mount.closing child (name :: rest)) := by
  obtain ⟨newer, older, heq, hnew⟩ := List.eq_append_cons_of_mem hmem
  have hsplit : name :: rest = (newer ++ [child]) ++ older := by
    rw [heq, List.append_assoc, List.singleton_append]
  have hhead : (newer ++ [child]).head? = some name := by
    cases newer <;> simp_all
  rw [heq, closing_append hnew]
  constructor
  · refine ⟨(newer ++ [child]).reverse, rfl, ?_, by simp, ?_⟩
    · exact List.nodup_reverse.mpr ((hsplit ▸ h.nodup).sublist (List.sublist_append_left _ _))
    · rw [List.getLast?_reverse, hhead]
  · have hfront : (newer ++ [child]).reverse.IsChain R :=
      List.isChain_reverse.mpr (hsplit ▸ h.steps).left_of_append
    refine hfront.append (List.isChain_singleton child) ?_
    intro x hx y hy
    rw [List.getLast?_reverse, hhead] at hx
    cases hx
    cases hy
    exact hstep

/-! ## The search -/

/-- What a search of `targets` answers after `done`: more nodes are settled, the targets among them,
or there is a simple cycle. -/
def Answers (edges : List Edge) (targets done : List String) :
    Except (List String) (List String) → Prop
  | .ok done' => Settled edges done' ∧ done ⊆ done' ∧ targets ⊆ done'
  | .error cycle => ∃ first last, IsCycle (Mounts edges) first last cycle

/-- A search of several targets in turn answers as the search of each of them does. -/
theorem foldlM_answers {targets : List String}
    {f : List String → String → Except (List String) (List String)}
    (hf : ∀ done, ∀ target ∈ targets, Settled edges done →
      Answers edges [target] done (f done target))
    (done : List String) (hdone : Settled edges done) :
    Answers edges targets done (targets.foldlM f done) := by
  induction targets generalizing done with
  | nil => exact ⟨hdone, List.Subset.refl _, List.nil_subset _⟩
  | cons target targets ih =>
    have hfirst := hf done target List.mem_cons_self hdone
    rw [List.foldlM_cons]
    cases hcase : f done target with
    | error cycle => rw [hcase] at hfirst; exact hfirst
    | ok done' =>
      rw [hcase] at hfirst
      obtain ⟨hsettled, hsub, htarget⟩ := hfirst
      have hrest := ih (fun done t ht => hf done t (List.mem_cons_of_mem _ ht)) done' hsettled
      show Answers edges (target :: targets) done (targets.foldlM f done')
      cases hcase' : targets.foldlM f done' with
      | error cycle => rw [hcase'] at hrest; exact hrest
      | ok done'' =>
        rw [hcase'] at hrest
        obtain ⟨hsettled', hsub', htargets⟩ := hrest
        refine ⟨hsettled', List.Subset.trans hsub hsub', List.cons_subset.mpr ⟨?_, htargets⟩⟩
        exact hsub' (htarget List.mem_cons_self)

/-- Every child is on the trail or fresh. -/
def Known (edges : List Edge) (trail fresh : List String) : Prop :=
  ∀ e ∈ edges, e.child ∈ trail ∨ e.child ∈ fresh

theorem Known.push {trail fresh : List String} (h : Known edges trail fresh) (child : String) :
    Known edges (child :: trail) (fresh.erase child) := by
  intro e he
  by_cases heq : e.child = child
  · exact .inl (heq ▸ List.mem_cons_self)
  · rcases h e he with h | h
    · exact .inl (List.mem_cons_of_mem _ h)
    · exact .inr ((List.mem_erase_of_ne heq).mpr h)

/-- The search of one child of the head of `trail`. -/
def visit (edges : List Edge) (fresh trail done : List String) (child : String) :
    Except (List String) (List String) :=
  if child ∈ trail then .error (closing child trail)
  else if child ∈ done then .ok done
  else if child ∈ fresh then follow edges (fresh.erase child) (child :: trail) done child
  else .ok done

theorem follow_eq_visit (edges : List Edge) (fresh trail done : List String) (name : String) :
    follow edges fresh trail done name = (do
      let done ← (children edges name).foldlM (visit edges fresh trail) done
      .ok (name :: done)) :=
  follow_eq edges fresh trail done name

/-- The search below the head of a trail: every step down takes a fresh node onto the trail. -/
theorem follow_answers (fresh rest done : List String) (name : String)
    (htrail : IsTrail (Mounts edges) (name :: rest))
    (hknown : Known edges (name :: rest) fresh)
    (hdone : Settled edges done) :
    Answers edges [name] done (follow edges fresh (name :: rest) done name) := by
  induction hlen : fresh.length using Nat.strong_induction_on generalizing fresh rest done name with
  | _ n ih =>
  have hvisit : ∀ done, ∀ child ∈ children edges name, Settled edges done →
      Answers edges [child] done (visit edges fresh (name :: rest) done child) := by
    intro done child hchild hdone
    have hstep := mem_children.mp hchild
    unfold visit
    by_cases hback : child ∈ name :: rest
    · rw [if_pos hback]
      exact ⟨_, _, htrail.closing hstep hback⟩
    by_cases hold : child ∈ done
    · rw [if_neg hback, if_pos hold]
      exact ⟨hdone, List.Subset.refl _, by simpa using hold⟩
    have hfresh : child ∈ fresh := by
      obtain ⟨e, he, -, rfl⟩ := hstep
      exact (hknown e he).resolve_left hback
    rw [if_neg hback, if_neg hold, if_pos hfresh]
    have hshorter : (fresh.erase child).length < n := by
      have := List.length_pos_of_mem hfresh
      rw [List.length_erase_of_mem hfresh]
      omega
    exact ih _ hshorter (fresh.erase child) (name :: rest) done child (htrail.push hstep hback)
      (hknown.push child) hdone rfl
  have hchildren := foldlM_answers hvisit done hdone
  rw [follow_eq_visit]
  cases hcase : (children edges name).foldlM (visit edges fresh (name :: rest)) done with
  | error cycle => rw [hcase] at hchildren; exact hchildren
  | ok done' =>
    rw [hcase] at hchildren
    obtain ⟨hsettled, hsub, hall⟩ := hchildren
    refine ⟨.cons (fun c hc => hall (mem_children.mpr hc)) hsettled, ?_, by simp⟩
    exact List.Subset.trans hsub (List.subset_cons_self _ _)

theorem search_answers (edges : List Edge) (names : List String)
    (hknown : ∀ e ∈ edges, e.child ∈ names) : Answers edges names [] (search edges names) := by
  refine foldlM_answers (fun done name _ hdone => ?_) [] .nil
  by_cases hmem : name ∈ done
  · rw [if_pos hmem]
    exact ⟨hdone, List.Subset.refl _, by simpa using hmem⟩
  · rw [if_neg hmem]
    have hstart : Known edges [] names := fun e he => .inr (hknown e he)
    exact follow_answers _ [] done name (.singleton _ name) (hstart.push name) hdone

variable {g : Graph}

theorem Graph.isCycle_of_cycle? (hknown : ∀ e ∈ g.edges, e.child ∈ g.nodes.map Node.name)
    {path : List String} (h : g.cycle? = some path) :
    ∃ first last, IsCycle (Mounts g.edges) first last path := by
  have hans := search_answers g.edges _ hknown
  rw [cycle?] at h
  cases hcase : search g.edges (g.nodes.map Node.name) with
  | ok done => rw [hcase] at h; cases h
  | error cycle =>
    rw [hcase] at h hans
    cases h
    exact hans

/-- A node on a cycle is the child of a mount, so a search that ends well has been there. -/
theorem Graph.not_transGen_of_cycle?_eq_none
    (hknown : ∀ e ∈ g.edges, e.child ∈ g.nodes.map Node.name) (h : g.cycle? = none)
    (name : String) : ¬ Relation.TransGen (Mounts g.edges) name name := by
  have hans := search_answers g.edges _ hknown
  rw [cycle?] at h
  cases hcase : search g.edges (g.nodes.map Node.name) with
  | error cycle => rw [hcase] at h; cases h
  | ok done =>
    rw [hcase] at hans
    obtain ⟨hsettled, -, hall⟩ := hans
    intro hcycle
    obtain ⟨parent, -, e, he, -, rfl⟩ := Relation.TransGen.tail'_iff.mp hcycle
    exact hsettled.not_transGen (hall (hknown e he)) hcycle

end ServiceContracts.Mount
