import ServiceContracts.Proofs.Analysis.Streams

/-!
# A broken repository by itself

A repository that cannot be built leaves one diagnostic and nothing else. Without all that it
registers the other repositories have the same graphs, so calls are matched with the same table.

* `without` : the facts without those of one repository that are built;
* `buildAll_usable_without` : every other repository has the same outcome;
* `one_outcome` : a graph or a diagnostic;
* `analyze_isolated` : the findings without a broken repository.
-/

namespace ServiceContracts.Analysis
open Mount Matching Number

/-- The facts without what a repository registers; its endpoints that cannot be matched stay, and so
do its calls. -/
def without (repo : String) (facts : List Fact) : List Fact :=
  facts.filter fun f => !(isRegistration f && !isGapFact f && f.repo == repo)

section Without
variable {b : Boundary} {s : Snapshot} {repo : String} {f : Fault}

theorem gaps_without (repo : String) (facts : List Fact) :
    gaps (without repo facts) = gaps facts := by
  rw [gaps_eq_filterMap, gaps_eq_filterMap, without, List.filter_filter]
  congr 1
  apply List.filter_congr
  intro f _
  cases isGapFact f <;> simp

theorem calls_without (repo : String) (facts : List Fact) :
    (without repo facts).filterMap Fact.call? = facts.filterMap Fact.call? := by
  rw [without, List.filterMap_filter]
  apply List.filterMap_congr
  intro f _
  cases f <;> simp [isRegistration, Fact.call?]

theorem buildAll_usable_without (repo : String) (facts : List Fact) :
    buildAll (usable (without repo facts)) =
      buildAll ((usable facts).filter fun f => f.repo != repo) := by
  rw [← buildAll_filter_isRegistration (usable (without repo facts)),
    ← buildAll_filter_isRegistration ((usable facts).filter fun f => f.repo != repo)]
  simp only [usable, without, List.filter_filter]
  congr 1
  apply List.filter_congr
  intro f _
  cases isRegistration f <;> cases isGapFact f <;> simp [bne]

/-- The table is the same without a repository that cannot be built. -/
theorem table_without (h : build repo (registrations (usable s.facts) repo) = .error f) :
    table { s with facts := without repo s.facts } = table s := by
  rw [table, table, buildAll_usable_without,
    graphs_buildAll_filter (· != repo) (usable s.facts) fun other hother => ?_]
  obtain rfl : other = repo := by simpa using hother
  exact isBuilt_eq_false_iff.mpr ⟨f, h⟩

theorem faults_without (repo : String) (facts : List Fact) :
    faults (buildAll (usable (without repo facts))) =
      (faults (buildAll (usable facts))).filter fun f => f.repo != repo := by
  rw [buildAll_usable_without, filter_faults (· != repo), filter_buildAll (· != repo)]

theorem findings_without (h : build repo (registrations (usable s.facts) repo) = .error f)
    (conflicts : List Conflict) :
    (Run.of b { s with facts := without repo s.facts }).findings conflicts =
      { (Run.of b s).findings conflicts with
        diagnostics := ((Run.of b s).findings conflicts).diagnostics.filter
          fun d => d.repo != repo } := by
  have hcalls : Snapshot.calls { s with facts := without repo s.facts } = s.calls :=
    calls_without repo s.facts
  have hdiagnostics : ((Run.of b { s with facts := without repo s.facts }).findings
      conflicts).diagnostics = ((Run.of b s).findings conflicts).diagnostics.filter
        fun d => d.repo != repo := by
    show (faults (buildAll (usable (without repo s.facts)))).map diagnostic =
      ((faults (buildAll (usable s.facts))).map diagnostic).filter fun d => d.repo != repo
    rw [faults_without, List.filter_map]
    rfl
  rw [findings_congr (table_without h) hcalls (gaps_without repo s.facts), hdiagnostics]

end Without

/-! ## One outcome -/

section Outcome
variable {facts : List Fact} {repo : String}

/-- What has become of a repository: the graph that its own registrations give and no diagnostic, or
one diagnostic and no graph. -/
inductive HasOneOutcome (facts : List Fact) (repo : String) (outcomes : List (Except Fault Graph)) :
    Prop where
  | graph {g : Graph} : build repo (registrations facts repo) = .ok g →
      (graphs outcomes).filter (fun g => g.repo == repo) = [g] →
      ((faults outcomes).map diagnostic).filter (fun d => d.repo == repo) = [] →
      HasOneOutcome facts repo outcomes
  | fault {f : Fault} : build repo (registrations facts repo) = .error f →
      (graphs outcomes).filter (fun g => g.repo == repo) = [] →
      ((faults outcomes).map diagnostic).filter (fun d => d.repo == repo) = [diagnostic f] →
      HasOneOutcome facts repo outcomes

theorem one_outcome (h : repo ∈ registered facts) :
    HasOneOutcome facts repo (buildAll facts) := by
  have hgraphs := filter_graphs (· == repo) (buildAll facts)
  have hfaults := filter_faults (· == repo) (buildAll facts)
  rw [filter_buildAll_eq h] at hgraphs hfaults
  have hdiagnostics : ((faults (buildAll facts)).map diagnostic).filter (fun d => d.repo == repo) =
      ((faults (buildAll facts)).filter fun f => f.repo == repo).map diagnostic :=
    List.filter_map
  rw [hfaults] at hdiagnostics
  cases hbuild : build repo (registrations facts repo) with
  | ok g =>
    rw [hbuild] at hgraphs hdiagnostics
    exact .graph hbuild hgraphs hdiagnostics
  | error f =>
    rw [hbuild] at hgraphs hdiagnostics
    exact .fault hbuild hgraphs hdiagnostics

theorem mem_registered_of_error {f : Fault}
    (h : build repo (registrations facts repo) = .error f) : repo ∈ registered facts := by
  by_contra hrepo
  rw [registrations_eq_nil hrepo] at h
  cases h

theorem mem_registered_usable {f : Fact} (hf : f ∈ facts) (hregistration : isRegistration f = true)
    (hgap : isGapFact f = false) : f.repo ∈ registered (usable facts) :=
  mem_registered.mpr ⟨f, List.mem_filter.mpr ⟨hf, by simp [hgap]⟩, hregistration, rfl⟩

end Outcome

/-- Every repository with a mount or an endpoint that can be matched has one outcome, that of its
own registrations. If it is a fault, the findings without these are the same, but for the one
diagnostic of the repository; also the table is the same, row by row. -/
theorem analyze_isolated (b : Boundary) (s : Snapshot) :
    (∀ repo f, build repo (registrations (usable s.facts) repo) = .error f →
      table { s with facts := without repo s.facts } = table s ∧
      analyze b { s with facts := without repo s.facts } = (analyze b s).map (fun found =>
        { found with diagnostics := found.diagnostics.filter fun d => d.repo != repo }) ∧
      ∀ found, analyze b s = .ok found →
        found.diagnostics.filter (fun d => d.repo == repo) = [diagnostic f]) ∧
    (∀ found, analyze b s = .ok found →
      found.diagnostics = (faults (Run.of b s).outcomes).map diagnostic) ∧
    ∀ fact ∈ s.facts, isRegistration fact = true → isGapFact fact = false →
      HasOneOutcome (usable s.facts) fact.repo (Run.of b s).outcomes := by
  have hdiagnostics : ∀ found, analyze b s = .ok found →
      found.diagnostics = (faults (Run.of b s).outcomes).map diagnostic := by
    intro found hfound
    obtain ⟨conflicts, -, rfl⟩ := analyze_eq_ok_iff.mp hfound
    rfl
  refine ⟨fun repo f hbuild => ⟨table_without hbuild, ?_, fun found hfound => ?_⟩, hdiagnostics,
    fun fact hfact hregistration hgap =>
      one_outcome (mem_registered_usable hfact hregistration hgap)⟩
  · rw [analyze, analyze]
    cases Dependency.conflicts s.declarations with
    | error stop => rfl
    | ok conflicts => exact congrArg Except.ok (findings_without hbuild conflicts)
  · rw [hdiagnostics found hfound]
    cases one_outcome (mem_registered_of_error hbuild) with
    | graph hother _ _ =>
      rw [hbuild] at hother
      cases hother
    | fault hsame _ hone =>
      rw [hbuild] at hsame
      cases hsame
      exact hone

/-- A router that is mounted on itself, amid the facts of another repository: its call stays, and so
does its endpoint without a path. -/
theorem analyze_isolated_loop :
    let mount (repo parent child : String) : Fact := .mount { parent, child, repo }
    let endpoint (repo path : String) : Fact :=
      .endpoint { method := "GET", path, owner := "r", repo }
    let call : Fact := .call { method := "GET", url := "/x", callerRepo := "web" }
    let facts := [mount "shop" "app" "r", endpoint "web" "/x", mount "web" "r" "r",
      endpoint "shop" "/x", endpoint "web" "", call, endpoint "web" "/y"]
    let rest := [mount "shop" "app" "r", endpoint "shop" "/x", endpoint "web" "", call]
    analyze {} { facts := rest } = (analyze {} { facts }).map (fun found =>
      { found with diagnostics := found.diagnostics.filter fun d => d.repo != "web" }) ∧
    ∀ found, analyze {} { facts } = .ok found →
      found.diagnostics.filter (fun d => d.repo == "web") =
        [diagnostic (.cycle "web" "r" "r" ["r", "r"])] := by
  intro mount endpoint call facts rest
  have hbuild : build "web" (registrations (usable facts) "web") =
      .error (.cycle "web" "r" "r" ["r", "r"]) := by decide +kernel
  have hrest : without "web" facts = rest := by decide +kernel
  obtain ⟨-, hanalyze, hone⟩ := (analyze_isolated {} { facts }).1 "web" _ hbuild
  rw [← hrest]
  exact ⟨hanalyze, hone⟩

end ServiceContracts.Analysis
