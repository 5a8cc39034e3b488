import ServiceContracts.Mount.Build
import ServiceContracts.Proofs.Mount.Acyclic
import ServiceContracts.Proofs.Text.Trim

/-!
# When a mount graph cannot be built

A graph is refused for a mount with a blank side, and then for the first such mount; without one it
is refused if the mounts form a cycle, and then for a simple cycle of them.

* `HasBlankSide`, `Declares` : the two conditions, said of the facts;
* `blankMount?_eq_some_iff` : which mount with a blank side is reported;
* `mem_edges_collect`, `exists_endpoint_of_mem_collect` : where the mounts and endpoints of the
  collected graph come from;
* `mounts_collect`, `names_collect` : the collected graph has the mounts that the facts declare, and
  its nodes are the names that they mention, so that both ends of every mount are nodes;
* `stray?_collect` : no name is looked up among the nodes in vain;
* `build_cases`, `build_faults` : what `build` answers, and its faults.
-/

namespace ServiceContracts.Mount

/-- Nothing is left of the parent or the child after trimming. -/
def HasBlankSide (m : MountFact) : Prop := Text.trim m.parent = "" ∨ Text.trim m.child = ""

/-- A mount fact puts `child` on `parent`, blanks around the two names left out. -/
def Declares (facts : List Fact) (parent child : String) : Prop :=
  ∃ m, Fact.mount m ∈ facts ∧ Text.trim m.parent = parent ∧ Text.trim m.child = child

/-- The fact is the first one of a mount with a blank side. -/
def IsFirstBlank (facts : List Fact) (m : MountFact) : Prop :=
  ∃ before after, facts = before ++ .mount m :: after ∧ HasBlankSide m ∧
    ∀ m', .mount m' ∈ before → ¬ HasBlankSide m'

/-! ## Blank sides -/

theorem isBlankMount_iff {m : MountFact} : isBlankMount m = true ↔ HasBlankSide m := by
  rw [isBlankMount, HasBlankSide, Bool.or_eq_true, Text.trim_eq_empty_iff, Text.trim_eq_empty_iff]

theorem mount?_eq_some_iff {f : Fact} {m : MountFact} : f.mount? = some m ↔ f = .mount m := by
  cases f <;> simp [Fact.mount?]

theorem mem_filterMap_mount? {facts : List Fact} {m : MountFact} :
    m ∈ facts.filterMap Fact.mount? ↔ .mount m ∈ facts := by
  simp only [List.mem_filterMap, mount?_eq_some_iff, exists_eq_right]

/-- The first mount with a blank side, if there is one. -/
def blankMount? (facts : List Fact) : Option MountFact :=
  (facts.filterMap Fact.mount?).find? isBlankMount

theorem blankMount?_eq_some_iff {facts : List Fact} {m : MountFact} :
    blankMount? facts = some m ↔ IsFirstBlank facts m := by
  rw [blankMount?, List.find?_eq_some_iff_append]
  constructor
  · rintro ⟨hm, as, bs, hsplit, has⟩
    obtain ⟨front, back, rfl, rfl, hback⟩ := List.filterMap_eq_append_iff.mp hsplit
    obtain ⟨gap, f, after, rfl, hgap, hf, -⟩ := List.filterMap_eq_cons_iff.mp hback
    obtain rfl := mount?_eq_some_iff.mp hf
    refine ⟨front ++ gap, after, by simp, isBlankMount_iff.mp hm, fun m' hm' hblank => ?_⟩
    rcases List.mem_append.mp hm' with hfront | hgap'
    · have := has m' (mem_filterMap_mount?.mpr hfront)
      rw [isBlankMount_iff.mpr hblank] at this
      cases this
    · cases hgap _ hgap'
  · rintro ⟨before, after, rfl, hm, hbefore⟩
    refine ⟨isBlankMount_iff.mpr hm, before.filterMap Fact.mount?, after.filterMap Fact.mount?,
      by simp [Fact.mount?], fun m' hm' => ?_⟩
    rw [Bool.not_eq_true', ← Bool.not_eq_true, isBlankMount_iff]
    exact hbefore m' (mem_filterMap_mount?.mp hm')

theorem blankMount?_eq_none_iff {facts : List Fact} :
    blankMount? facts = none ↔ ¬ ∃ m, .mount m ∈ facts ∧ HasBlankSide m := by
  simp only [blankMount?, List.find?_eq_none, mem_filterMap_mount?, isBlankMount_iff, not_exists,
    not_and]

/-! ## The collected graph -/

theorem mem_edges_collect {repo : String} {facts : List Fact} {e : Edge} :
    e ∈ (collect repo facts).edges ↔ ∃ m, .mount m ∈ facts ∧ Edge.of repo m = e := by
  simp only [collect, List.mem_map, mem_filterMap_mount?]

theorem endpoint?_eq_some_iff {f : Fact} {e : EndpointFact} :
    f.endpoint? = some e ↔ f = .endpoint e := by
  cases f <;> simp [Fact.endpoint?]

theorem mem_filterMap_endpoint? {facts : List Fact} {e : EndpointFact} :
    e ∈ facts.filterMap Fact.endpoint? ↔ .endpoint e ∈ facts := by
  simp only [List.mem_filterMap, endpoint?_eq_some_iff, exists_eq_right]

theorem exists_endpoint_of_mem_collect {repo : String} {facts : List Fact} {e : Endpoint}
    (he : e ∈ (collect repo facts).endpoints) :
    ∃ f order, .endpoint f ∈ facts ∧ Endpoint.of repo order f = e := by
  obtain ⟨order, hlt, rfl⟩ := List.exists_of_mem_mapIdx he
  exact ⟨_, order, mem_filterMap_endpoint?.mp (List.getElem_mem hlt), rfl⟩

theorem exists_mem_collect_of_endpoint (repo : String) {facts : List Fact} {f : EndpointFact}
    (hf : .endpoint f ∈ facts) :
    ∃ order, Endpoint.of repo order f ∈ (collect repo facts).endpoints := by
  obtain ⟨order, hlt, rfl⟩ := List.getElem_of_mem (mem_filterMap_endpoint?.mpr hf)
  exact ⟨order, List.mem_mapIdx.mpr ⟨order, hlt, rfl⟩⟩

theorem mounts_collect {repo : String} {facts : List Fact} {parent child : String} :
    Mounts (collect repo facts).edges parent child ↔ Declares facts parent child := by
  simp only [Mounts, Declares, mem_edges_collect]
  constructor
  · rintro ⟨_, ⟨m, hm, rfl⟩, hparent, hchild⟩
    exact ⟨m, hm, hparent, hchild⟩
  · rintro ⟨m, hm, hparent, hchild⟩
    exact ⟨_, ⟨m, hm, rfl⟩, hparent, hchild⟩

theorem names_collect (repo : String) (facts : List Fact) :
    (collect repo facts).nodes.map Node.name =
      distinct ((facts.flatMap mentions).map Prod.fst) := by
  rw [collect, List.map_map]
  exact List.map_id' _

theorem mem_names_collect {repo name : String} {facts : List Fact} :
    name ∈ (collect repo facts).nodes.map Node.name ↔
      ∃ f ∈ facts, name ∈ (mentions f).map Prod.fst := by
  rw [names_collect, mem_distinct, List.map_flatMap, List.mem_flatMap]

/-- Both ends of every mount are nodes. -/
theorem ends_mem_names_collect {repo : String} {facts : List Fact} {e : Edge}
    (he : e ∈ (collect repo facts).edges) :
    e.parent ∈ (collect repo facts).nodes.map Node.name ∧
      e.child ∈ (collect repo facts).nodes.map Node.name := by
  obtain ⟨m, hm, rfl⟩ := mem_edges_collect.mp he
  simp only [mem_names_collect]
  exact ⟨⟨_, hm, List.mem_cons_self⟩, ⟨_, hm, List.mem_cons_of_mem _ List.mem_cons_self⟩⟩

theorem owner_mem_names_collect {repo : String} {facts : List Fact} {e : Endpoint}
    (he : e ∈ (collect repo facts).endpoints) :
    e.owner ∈ (collect repo facts).nodes.map Node.name := by
  obtain ⟨f, order, hf, rfl⟩ := exists_endpoint_of_mem_collect he
  exact mem_names_collect.mpr ⟨_, hf, List.mem_cons_self⟩

/-- Whatever a mount or an endpoint mentions is a node. -/
theorem stray?_collect (repo : String) (facts : List Fact) :
    (collect repo facts).stray? = none := by
  refine List.find?_eq_none.mpr fun name hname => ?_
  have hnode : name ∈ (collect repo facts).nodes.map Node.name := by
    rcases List.mem_append.mp hname with hend | howner
    · obtain ⟨e, he, hend⟩ := List.mem_flatMap.mp hend
      obtain ⟨hparent, hchild⟩ := ends_mem_names_collect he
      obtain rfl | hend := List.mem_cons.mp hend
      · exact hchild
      · rwa [List.mem_singleton.mp hend]
    · obtain ⟨e, he, rfl⟩ := List.mem_map.mp howner
      exact owner_mem_names_collect he
  simpa using hnode

theorem mounts_collect_eq (repo : String) (facts : List Fact) :
    Mounts (collect repo facts).edges = Declares facts :=
  funext fun _ => funext fun _ => propext mounts_collect

theorem isCycle_of_cycle?_collect {repo : String} {facts : List Fact} {path : List String}
    (h : (collect repo facts).cycle? = some path) :
    ∃ first last, IsCycle (Declares facts) first last path := by
  rw [← mounts_collect_eq repo]
  exact Graph.isCycle_of_cycle? (fun _ he => (ends_mem_names_collect he).2) h

theorem cycle?_collect_eq_none_iff {repo : String} {facts : List Fact} :
    (collect repo facts).cycle? = none ↔
      ¬ ∃ name, Relation.TransGen (Declares facts) name name := by
  constructor
  · rintro hnone ⟨name, hcycle⟩
    rw [← mounts_collect_eq repo] at hcycle
    exact Graph.not_transGen_of_cycle?_eq_none (fun _ he => (ends_mem_names_collect he).2) hnone
      name hcycle
  · intro hno
    rw [Option.eq_none_iff_forall_not_mem]
    intro path hpath
    obtain ⟨first, last, hcycle⟩ := isCycle_of_cycle?_collect hpath
    exact hno ⟨first, hcycle.transGen⟩

/-! ## Faults -/

theorem IsCycle.ends_eq_some {R : String → String → Prop} {first last : String} {path : List String}
    (h : IsCycle R first last path) :
    path.head? = some first ∧ path.dropLast.getLast? = some last := by
  obtain ⟨nodes, rfl, -, hhead, hlast⟩ := h.closed
  rw [List.head?_append, hhead, List.dropLast_concat]
  exact ⟨rfl, hlast⟩

/-- A cycle is reported with its first node and the one before its end. -/
theorem IsCycle.ends {R : String → String → Prop} {first last : String} {path : List String}
    (h : IsCycle R first last path) :
    path.headD "" = first ∧ path.dropLast.getLastD "" = last := by
  obtain ⟨hhead, hlast⟩ := h.ends_eq_some
  rw [List.headD_eq_head?_getD, hhead, List.getLastD_eq_getLast?, hlast]
  exact ⟨rfl, rfl⟩

section Build
variable {repo : String} {facts : List Fact}

theorem build_of_blankMount? {m : MountFact} (h : blankMount? facts = some m) :
    build repo facts = .error (.unknownNode repo m.parent m.child) := by
  rw [blankMount?] at h
  rw [build, h]

theorem build_of_cycle {first last : String} {path : List String}
    (hblank : blankMount? facts = none) (hpath : (collect repo facts).cycle? = some path)
    (hcycle : IsCycle (Declares facts) first last path) :
    build repo facts = .error (.cycle repo first last path) := by
  rw [blankMount?] at hblank
  simp only [build, hblank, hpath, hcycle.ends]

theorem build_of_acyclic (hblank : blankMount? facts = none)
    (hpath : (collect repo facts).cycle? = none) : build repo facts = .ok (collect repo facts) := by
  rw [blankMount?] at hblank
  simp only [build, hblank, hpath]

/-- What `build` answers, and when. -/
theorem build_cases (repo : String) (facts : List Fact) :
    (∃ m, IsFirstBlank facts m ∧ build repo facts = .error (.unknownNode repo m.parent m.child)) ∨
    ((¬ ∃ m, .mount m ∈ facts ∧ HasBlankSide m) ∧ ∃ first last path,
      IsCycle (Declares facts) first last path ∧
        build repo facts = .error (.cycle repo first last path)) ∨
    ((¬ ∃ m, .mount m ∈ facts ∧ HasBlankSide m) ∧
      (¬ ∃ name, Relation.TransGen (Declares facts) name name) ∧
        build repo facts = .ok (collect repo facts)) := by
  cases hblank : blankMount? facts with
  | some m => exact .inl ⟨m, blankMount?_eq_some_iff.mp hblank, build_of_blankMount? hblank⟩
  | none =>
    have hnone := blankMount?_eq_none_iff.mp hblank
    cases hpath : (collect repo facts).cycle? with
    | some path =>
      obtain ⟨first, last, hcycle⟩ := isCycle_of_cycle?_collect hpath
      exact .inr (.inl ⟨hnone, first, last, path, hcycle, build_of_cycle hblank hpath hcycle⟩)
    | none =>
      exact .inr (.inr ⟨hnone, cycle?_collect_eq_none_iff.mp hpath, build_of_acyclic hblank hpath⟩)

end Build

theorem IsFirstBlank.exists {facts : List Fact} {m : MountFact} (h : IsFirstBlank facts m) :
    ∃ m, .mount m ∈ facts ∧ HasBlankSide m := by
  obtain ⟨before, after, rfl, hm, -⟩ := h
  exact ⟨m, by simp, hm⟩

/-- A graph is refused for a blank side just if some mount has one, whatever cycles there are, and
then for the first such mount; else it is refused for a cycle just if the mounts form one, and then
for a simple cycle of them. -/
theorem build_faults (repo : String) (facts : List Fact) :
    ((∃ r parent child, build repo facts = .error (.unknownNode r parent child)) ↔
      ∃ m, .mount m ∈ facts ∧ HasBlankSide m) ∧
    (∀ r parent child, build repo facts = .error (.unknownNode r parent child) →
      r = repo ∧ ∃ m, IsFirstBlank facts m ∧ parent = m.parent ∧ child = m.child) ∧
    ((∃ r first last path, build repo facts = .error (.cycle r first last path)) ↔
      (¬ ∃ m, .mount m ∈ facts ∧ HasBlankSide m) ∧
        ∃ name, Relation.TransGen (Declares facts) name name) ∧
    (∀ r first last path, build repo facts = .error (.cycle r first last path) →
      r = repo ∧ IsCycle (Declares facts) first last path) := by
  obtain ⟨m, hfirst, hbuild⟩ | ⟨hblank, first, last, path, hcycle, hbuild⟩ |
    ⟨hblank, hacyclic, hbuild⟩ := build_cases repo facts
  · refine ⟨?_, ?_, ?_, ?_⟩ <;> simp only [hbuild]
    · exact ⟨fun _ => hfirst.exists, fun _ => ⟨_, _, _, rfl⟩⟩
    · rintro r parent child h
      cases h
      exact ⟨rfl, m, hfirst, rfl, rfl⟩
    · exact ⟨by simp, fun h => absurd hfirst.exists h.1⟩
    · simp
  · refine ⟨?_, ?_, ?_, ?_⟩ <;> simp only [hbuild]
    · exact ⟨by simp, fun h => absurd h hblank⟩
    · simp
    · exact ⟨fun _ => ⟨hblank, first, hcycle.transGen⟩, fun _ => ⟨_, _, _, _, rfl⟩⟩
    · rintro r first' last' path' h
      cases h
      exact ⟨rfl, hcycle⟩
  · refine ⟨?_, ?_, ?_, ?_⟩ <;> simp only [hbuild]
    · exact ⟨by simp, fun h => absurd h hblank⟩
    · simp
    · exact ⟨by simp, fun h => absurd h.2 hacyclic⟩
    · simp

/-- Three mounts of which the last two form a cycle. -/
theorem build_faults_loop :
    let mount (parent child : String) : Fact := .mount { parent, child, repo := "shop" }
    let facts := [mount "app" "a", mount " a" "b", mount "b " "a"]
    build "shop" facts = .error (.cycle "shop" "a" "b" ["a", "b", "a"]) ∧
      IsCycle (Declares facts) "a" "b" ["a", "b", "a"] := by
  intro mount facts
  have hblank : blankMount? facts = none := by decide +kernel
  have hpath : (collect "shop" facts).cycle? = some ["a", "b", "a"] := by decide +kernel
  obtain ⟨first, last, hcycle⟩ := isCycle_of_cycle?_collect hpath
  have hbuild := build_of_cycle hblank hpath hcycle
  obtain ⟨rfl, rfl⟩ := hcycle.ends
  exact ⟨hbuild, ((build_faults "shop" facts).2.2.2 "shop" "a" "b" ["a", "b", "a"] hbuild).2⟩

end ServiceContracts.Mount
