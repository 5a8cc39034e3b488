import ServiceContracts.Proofs.Mount.Chains
import ServiceContracts.Proofs.Mount.Table

/-!
# Every repository by itself

A repository is built from its own registrations, and whether it can be built depends on its mounts
only. The table holds the endpoints of the repositories that could be built, each with one row for
every chain down to its owner.

* `isOk_build_iff` : when a graph can be built;
* `buildAll_filter`, `graphs_buildAll_filter` : repositories may be left out before they are built;
* `graphs_buildAll_endpoint` : endpoints of a repository that cannot be built do not show;
* `filter_buildAll_eq` : every repository has one outcome;
* `exists_fault_iff` : the faults are those of the repositories that cannot be built;
* `rowsOf`, `exists_resolveAll_buildAll` : the table, endpoint by endpoint.
-/

namespace ServiceContracts.Mount

/-! ## Which repositories can be built -/

/-- The graph of the repository can be built. -/
def isBuilt (facts : List Fact) (repo : String) : Bool :=
  (build repo (registrations facts repo)).isOk

section Build
variable {repo : String} {facts facts' : List Fact} {g : Graph} {f : Fault}

theorem isOk_build_iff : (build repo facts).isOk = true ↔
    (¬ ∃ m, .mount m ∈ facts ∧ HasBlankSide m) ∧
      ¬ ∃ name, Relation.TransGen (Declares facts) name name := by
  obtain ⟨m, hfirst, hbuild⟩ | ⟨hblank, first, last, path, hcycle, hbuild⟩ |
    ⟨hblank, hacyclic, hbuild⟩ := build_cases repo facts
  · rw [hbuild]
    exact iff_of_false (by simp [Except.isOk, Except.toBool]) fun h => h.1 hfirst.exists
  · rw [hbuild]
    exact iff_of_false (by simp [Except.isOk, Except.toBool])
      fun h => h.2 ⟨first, hcycle.transGen⟩
  · rw [hbuild]
    exact iff_of_true rfl ⟨hblank, hacyclic⟩

/-- Endpoints cannot keep a graph from being built. -/
theorem isOk_build_congr (h : ∀ m, .mount m ∈ facts ↔ .mount m ∈ facts') :
    (build repo facts).isOk = (build repo facts').isOk := by
  have hdeclares : Declares facts = Declares facts' := by
    funext parent child
    simp only [Declares, h]
  rw [Bool.eq_iff_iff, isOk_build_iff, isOk_build_iff, hdeclares]
  simp only [h]

theorem repo_of_build_error (h : build repo facts = .error f) : f.repo = repo := by
  obtain ⟨m, -, hbuild⟩ | ⟨-, first, last, path, -, hbuild⟩ | ⟨-, -, hbuild⟩ :=
    build_cases repo facts
  · rw [hbuild] at h; cases h; rfl
  · rw [hbuild] at h; cases h; rfl
  · rw [hbuild] at h; cases h

theorem isOk_of_build (h : build repo facts = .ok g) : (build repo facts).isOk = true := by
  rw [h]
  rfl

theorem build_of_isOk (h : (build repo facts).isOk = true) :
    build repo facts = .ok (collect repo facts) := by
  cases hbuild : build repo facts with
  | ok g => rw [(eq_collect_of_build hbuild).1]
  | error f =>
    rw [hbuild] at h
    cases h

theorem exists_of_isBuilt (h : isBuilt facts repo = true) :
    ∃ g, build repo (registrations facts repo) = .ok g :=
  ⟨_, build_of_isOk h⟩

theorem isBuilt_eq_false_iff :
    isBuilt facts repo = false ↔ ∃ f, build repo (registrations facts repo) = .error f := by
  unfold isBuilt
  cases build repo (registrations facts repo) <;> simp [Except.isOk, Except.toBool]

end Build

/-! ## Leaving repositories out -/

section Filter
variable (keep : String → Bool) (facts : List Fact)

theorem mem_registered {facts : List Fact} {repo : String} :
    repo ∈ registered facts ↔ ∃ f ∈ facts, isRegistration f = true ∧ f.repo = repo := by
  simp only [registered, mem_distinct, List.mem_map, List.mem_filter, and_assoc]

theorem nodup_registered : (registered facts).Nodup := nodup_distinct _

theorem registered_filter :
    registered (facts.filter fun f => keep f.repo) = (registered facts).filter keep := by
  rw [registered, registered, filter_distinct, List.filter_map, List.filter_filter,
    List.filter_filter]
  simp only [Function.comp_apply, Bool.and_comm]

theorem registrations_filter {repo : String} (h : keep repo = true) :
    registrations (facts.filter fun f => keep f.repo) repo = registrations facts repo := by
  rw [registrations, registrations, List.filter_filter]
  apply List.filter_congr
  intro f _
  by_cases hrepo : f.repo = repo
  · simp [hrepo, h]
  · simp [hrepo]

theorem buildAll_filter : buildAll (facts.filter fun f => keep f.repo) =
    ((registered facts).filter keep).map fun repo => build repo (registrations facts repo) := by
  rw [buildAll, registered_filter]
  apply List.map_congr_left
  intro repo hrepo
  rw [registrations_filter keep facts (List.mem_filter.mp hrepo).2]

/-- The graph of a repository, if it can be built. -/
def graph? (repo : String) : Option Graph := (build repo (registrations facts repo)).toOption

theorem graphs_map (repos : List String) :
    graphs (repos.map fun repo => build repo (registrations facts repo)) =
      repos.filterMap (graph? facts) := by
  rw [graphs, List.filterMap_map]
  apply List.filterMap_congr
  intro repo _
  rw [Function.comp_apply, graph?]
  cases build repo (registrations facts repo) <;> rfl

/-- Repositories that cannot be built may be left out. -/
theorem graphs_buildAll_filter (h : ∀ repo, keep repo = false → isBuilt facts repo = false) :
    graphs (buildAll (facts.filter fun f => keep f.repo)) = graphs (buildAll facts) := by
  rw [buildAll_filter, graphs_map, List.filterMap_filter, buildAll, graphs_map]
  apply List.filterMap_congr
  intro repo _
  cases hkeep : keep repo with
  | true => rfl
  | false =>
    obtain ⟨f, hbuild⟩ := isBuilt_eq_false_iff.mp (h repo hkeep)
    rw [graph?, hbuild]
    rfl

end Filter

theorem isBuilt_congr {facts facts' : List Fact} (h : ∀ m, .mount m ∈ facts ↔ .mount m ∈ facts')
    (repo : String) : isBuilt facts repo = isBuilt facts' repo := by
  apply isOk_build_congr
  intro m
  simp only [registrations, List.mem_filter, h]

/-- The graphs are the same without an endpoint of a repository that cannot be built. -/
theorem graphs_buildAll_endpoint {before after : List Fact} {e : EndpointFact}
    (h : isBuilt (before ++ .endpoint e :: after) e.repo = false) :
    graphs (buildAll (before ++ after)) = graphs (buildAll (before ++ .endpoint e :: after)) := by
  have hlost : isBuilt (before ++ after) e.repo = false := by
    rw [← h]
    exact isBuilt_congr (by simp) _
  have hother : ∀ repo, (repo != e.repo) = false → repo = e.repo := by simp
  have hsame : (before ++ after).filter (fun f => f.repo != e.repo) =
      (before ++ .endpoint e :: after).filter (fun f => f.repo != e.repo) := by
    simp [List.filter_append, Fact.repo]
  rw [← graphs_buildAll_filter (· != e.repo) (before ++ after) fun repo hrepo =>
      hother repo hrepo ▸ hlost,
    ← graphs_buildAll_filter (· != e.repo) (before ++ .endpoint e :: after) fun repo hrepo =>
      hother repo hrepo ▸ h, hsame]

/-! ## Outcomes -/

/-- The repository of an outcome. -/
def repoOf : Except Fault Graph → String
  | .ok g => g.repo
  | .error f => f.repo

section Outcomes
variable (keep : String → Bool) (facts : List Fact)

theorem repoOf_build (repo : String) (facts : List Fact) : repoOf (build repo facts) = repo := by
  cases hbuild : build repo facts with
  | ok g =>
    obtain ⟨rfl, -⟩ := eq_collect_of_build hbuild
    rfl
  | error f => exact repo_of_build_error hbuild

theorem filter_graphs (outcomes : List (Except Fault Graph)) :
    (graphs outcomes).filter (fun g => keep g.repo) =
      graphs (outcomes.filter fun o => keep (repoOf o)) := by
  rw [graphs, graphs, List.filter_filterMap, List.filterMap_filter]
  apply List.filterMap_congr
  rintro (f | g) _
  · simp
  · cases h : keep g.repo <;> simp [repoOf, Option.filter, h]

theorem filter_faults (outcomes : List (Except Fault Graph)) :
    (faults outcomes).filter (fun f => keep f.repo) =
      faults (outcomes.filter fun o => keep (repoOf o)) := by
  rw [faults, faults, List.filter_filterMap, List.filterMap_filter]
  apply List.filterMap_congr
  rintro (f | g) _
  · cases h : keep f.repo <;> simp [repoOf, Option.filter, h]
  · simp

/-- A repository may be left out before it is built or after. -/
theorem filter_buildAll : (buildAll facts).filter (fun o => keep (repoOf o)) =
    buildAll (facts.filter fun f => keep f.repo) := by
  rw [buildAll_filter, buildAll, List.filter_map]
  simp only [Function.comp_def, repoOf_build]

/-- Every repository has one outcome. -/
theorem filter_buildAll_eq {facts : List Fact} {repo : String} (h : repo ∈ registered facts) :
    (buildAll facts).filter (fun o => repoOf o == repo) =
      [build repo (registrations facts repo)] := by
  rw [buildAll, List.filter_map]
  simp only [Function.comp_def, repoOf_build]
  rw [List.filter_beq, List.count_eq_one_of_mem (nodup_registered facts) h]
  rfl

/-- Facts that take no part in a graph may be left out. -/
theorem buildAll_filter_isRegistration :
    buildAll (facts.filter isRegistration) = buildAll facts := by
  have hrepos : registered (facts.filter isRegistration) = registered facts := by
    simp [registered]
  have hown : ∀ repo, registrations (facts.filter isRegistration) repo =
      registrations facts repo := by
    intro repo
    rw [registrations, registrations, List.filter_filter]
    exact List.filter_congr fun f _ => by cases isRegistration f <;> simp
  simp only [buildAll, hrepos, hown]

end Outcomes

/-! ## Faults -/

theorem exists_fault_iff {facts : List Fact} {repo : String} :
    (∃ f ∈ faults (buildAll facts), f.repo = repo) ↔
      repo ∈ registered facts ∧ isBuilt facts repo = false := by
  have hmem : ∀ f, f ∈ faults (buildAll facts) ↔
      ∃ repo ∈ registered facts, build repo (registrations facts repo) = .error f := by
    intro f
    simp only [faults, buildAll, List.filterMap_map, List.mem_filterMap, Function.comp_apply]
    refine exists_congr fun repo => and_congr_right fun _ => ?_
    cases build repo (registrations facts repo) <;> simp
  rw [isBuilt_eq_false_iff]
  constructor
  · rintro ⟨f, hf, rfl⟩
    obtain ⟨repo, hrepo, hbuild⟩ := (hmem f).mp hf
    rw [repo_of_build_error hbuild]
    exact ⟨hrepo, f, hbuild⟩
  · rintro ⟨hrepo, f, hbuild⟩
    exact ⟨f, (hmem f).mpr ⟨repo, hrepo, hbuild⟩, repo_of_build_error hbuild⟩

/-! ## The table, endpoint by endpoint -/

/-- The rows of an endpoint: one for each chain down to its owner, if its repository can be built.
They do not tell how many endpoints come before it. -/
def rowsOf (facts : List Fact) (e : EndpointFact) : List Row :=
  match build e.repo (registrations facts e.repo) with
  | .ok g => (g.chains (ownerOf e)).map (Endpoint.of e.repo 0 e).through
  | .error _ => []

section Rows
variable {facts : List Fact} {repo : String} {g : Graph} {e : EndpointFact}

/-- Facts may be left out before their endpoints are taken or after. -/
theorem filterMap_endpoint?_filter {keep : Fact → Bool} {keep' : EndpointFact → Bool}
    (h : ∀ e, keep (.endpoint e) = keep' e) (facts : List Fact) :
    (facts.filter keep).filterMap Fact.endpoint? =
      (facts.filterMap Fact.endpoint?).filter keep' := by
  rw [List.filterMap_filter, List.filter_filterMap]
  apply List.filterMap_congr
  intro f _
  cases f with
  | endpoint e => cases hkeep : keep' e <;> simp [Fact.endpoint?, Option.filter, h, hkeep]
  | call | mount | middleware | irrelevant => simp [Fact.endpoint?]

/-- The endpoints among the registrations of a repository. -/
theorem filterMap_endpoint?_registrations (facts : List Fact) (repo : String) :
    (registrations facts repo).filterMap Fact.endpoint? =
      (facts.filterMap Fact.endpoint?).filter fun e => e.repo = repo :=
  filterMap_endpoint?_filter (fun _ => Bool.true_and _) facts

theorem rowsOf_of_build (h : build e.repo (registrations facts e.repo) = .ok g) :
    rowsOf facts e = (g.chains (ownerOf e)).map (Endpoint.of e.repo 0 e).through := by
  rw [rowsOf, h]

/-- The place of an endpoint in its repository does not show in its rows. -/
theorem through_of (repo : String) (order : Nat) (e : EndpointFact) :
    (Endpoint.of repo order e).through = (Endpoint.of repo 0 e).through := rfl

/-- The rows of a collected graph, fact by fact. -/
theorem rows_collect (repo : String) (facts : List Fact) :
    (collect repo facts).rows = (facts.filterMap Fact.endpoint?).flatMap fun e =>
      ((collect repo facts).chains (ownerOf e)).map (Endpoint.of repo 0 e).through := by
  have hplaces : (collect repo facts).endpoints =
      (facts.filterMap Fact.endpoint?).zipIdx.map fun p => Endpoint.of repo p.2 p.1 :=
    List.mapIdx_eq_zipIdx_map
  rw [← List.zipIdx_map_fst 0 (facts.filterMap Fact.endpoint?)]
  simp only [Graph.rows, hplaces, List.flatMap_map, Endpoint.owner_of, through_of]

theorem rows_of_build (h : build repo (registrations facts repo) = .ok g) :
    g.rows = ((facts.filterMap Fact.endpoint?).filter fun e => e.repo = repo).flatMap
      (rowsOf facts) := by
  obtain ⟨rfl, -⟩ := eq_collect_of_build h
  rw [rows_collect, filterMap_endpoint?_registrations]
  apply List.flatMap_congr
  intro e he
  obtain rfl : e.repo = repo := by simpa using (List.mem_filter.mp he).2
  exact (rowsOf_of_build h).symm

/-- An endpoint has its place in the graph of its repository. -/
theorem exists_getElem?_of_build (h : build e.repo (registrations facts e.repo) = .ok g)
    (he : e ∈ facts.filterMap Fact.endpoint?) :
    ∃ i, g.endpoints[i]? = some (Endpoint.of e.repo i e) := by
  obtain ⟨rfl, -⟩ := eq_collect_of_build h
  have hown : e ∈ (registrations facts e.repo).filterMap Fact.endpoint? := by
    rw [filterMap_endpoint?_registrations]
    exact List.mem_filter.mpr ⟨he, decide_eq_true rfl⟩
  obtain ⟨i, hi⟩ := List.mem_iff_getElem?.mp hown
  refine ⟨i, ?_⟩
  rw [collect, List.getElem?_mapIdx, hi, Option.map_some]

theorem mem_registered_of_endpoint (he : e ∈ facts.filterMap Fact.endpoint?) :
    e.repo ∈ registered facts := by
  obtain ⟨f, hf, hsome⟩ := List.mem_filterMap.mp he
  obtain rfl := endpoint?_eq_some_iff.mp hsome
  exact mem_registered.mpr ⟨_, hf, rfl, rfl⟩

/-- The endpoints of the repositories that can be built, in some order, make up the table. -/
theorem exists_resolveAll_buildAll (facts : List Fact) :
    ∃ resolved : List EndpointFact,
      resolved.Perm ((facts.filterMap Fact.endpoint?).filter fun e => isBuilt facts e.repo) ∧
        resolveAll (graphs (buildAll facts)) = numbered 0 (resolved.flatMap (rowsOf facts)) := by
  let repos := (registered facts).filter (isBuilt facts)
  refine ⟨repos.flatMap fun repo =>
    (facts.filterMap Fact.endpoint?).filter fun e => e.repo = repo, ?_, ?_⟩
  · have hnodup : repos.Nodup := (nodup_registered facts).filter _
    have hrepos : ∀ e ∈ facts.filterMap Fact.endpoint?,
        decide (e.repo ∈ repos) = isBuilt facts e.repo := by
      intro e he
      simp [repos, mem_registered_of_endpoint he]
    rw [← List.filter_congr hrepos]
    exact flatMap_filter_perm hnodup
  · rw [resolveAll_eq_numbered, ← graphs_buildAll_filter (isBuilt facts) facts fun _ h => h,
      buildAll_filter, graphs_map, List.flatMap_assoc, List.filterMap_eq_flatMap_toList,
      List.flatMap_assoc]
    congr 1
    apply List.flatMap_congr
    intro repo hrepo
    obtain ⟨g, hbuild⟩ := exists_of_isBuilt (List.mem_filter.mp hrepo).2
    rw [graph?, hbuild, ← rows_of_build hbuild]
    exact List.flatMap_singleton _ _

end Rows

end ServiceContracts.Mount
