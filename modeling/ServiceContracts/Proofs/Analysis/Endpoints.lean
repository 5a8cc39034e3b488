import ServiceContracts.Analysis
import ServiceContracts.Proofs.Matching.Local
import ServiceContracts.Proofs.Mount.Repositories

/-!
# What becomes of an endpoint

An endpoint without a usable method or path is reported right away; one of a repository that cannot
be built is left out; every other one has a row of the table for each chain down to its owner. An
endpoint that is reported as unused comes from one of the first or of the last.

* `usable`, `table` : the facts that are built, and the table in which calls are looked up;
* `IsUnusable`, `OrphanedEndpoint.Reports` : which endpoints are reported right away, and how;
* `isBroken_findings` : a repository has a diagnostic just if it cannot be built;
* `analyze_without` : the findings without an endpoint of a repository that cannot be built;
* `analyze_endpoints` : all endpoints and what becomes of them.
-/

namespace ServiceContracts

/-- The repository has a diagnostic. -/
def Findings.isBroken (found : Findings) (repo : String) : Bool :=
  found.diagnostics.any fun d => d.repo == repo

/-- The report says of an endpoint that it cannot be matched, with what the fact says of it. -/
structure OrphanedEndpoint.Reports (o : OrphanedEndpoint) (e : EndpointFact) : Prop where
  confidence : o.confidence = .low
  method : o.method =
    if Verb.canonical e.method = "" then "UNKNOWN" else Verb.canonical e.method
  fullPath : o.fullPath = if Text.trim e.path = "" then "(empty)" else Text.trim e.path
  repo : o.repo = e.repo
  owner : o.owner = e.owner
  handler : o.handler = e.handler
  location : o.location = e.location

end ServiceContracts

namespace ServiceContracts.Analysis
open Mount Matching

/-! ## Usable facts -/

/-- The facts without the endpoints that cannot be matched. -/
def usable (facts : List Fact) : List Fact := facts.filter fun f => !isGapFact f

/-- The table in which calls are looked up. -/
def table (s : Snapshot) : List Row := resolveAll (graphs (buildAll (usable s.facts)))

section Usable
variable {e : EndpointFact}

/-- The endpoint names no method, or nothing is left of its path after trimming. -/
def IsUnusable (e : EndpointFact) : Prop :=
  (Verb.canonical e.method ≠ Verb.any ∧ ∀ v : Verb, Verb.canonical e.method ≠ v.name) ∨
    Text.trim e.path = ""

theorem isGap_iff : isGap e = true ↔ IsUnusable e := by
  have hmethod : Verb.registered? e.method = none ↔
      Verb.canonical e.method ≠ Verb.any ∧ ∀ v : Verb, Verb.canonical e.method ≠ v.name := by
    simp only [Option.eq_none_iff_forall_ne_some, ne_eq, Verb.registered?_eq_some_iff, not_and,
      forall_eq', not_or, not_exists]
  rw [isGap, Bool.or_eq_true, Option.isNone_iff_eq_none, hmethod, IsUnusable,
    Text.trim_eq_empty_iff]

theorem registered?_of_usable (h : isGap e = false) :
    Verb.registered? e.method = some (Verb.canonical e.method) := by
  simp only [isGap, Bool.or_eq_false_iff, Option.isNone_eq_false_iff, Option.isSome_iff_exists] at h
  obtain ⟨⟨method, hmethod⟩, -⟩ := h
  rw [hmethod, (Verb.registered?_eq_some_iff.mp hmethod).1]

theorem filterMap_endpoint?_usable (facts : List Fact) :
    (usable facts).filterMap Fact.endpoint? =
      (facts.filterMap Fact.endpoint?).filter fun e => !isGap e :=
  filterMap_endpoint?_filter (fun _ => rfl) facts

theorem usable_endpoint (before after : List Fact) (h : isGap e = false) :
    usable (before ++ .endpoint e :: after) = usable before ++ .endpoint e :: usable after := by
  simp [usable, List.filter_append, isGapFact, h]

end Usable

theorem reports_gapReport (e : EndpointFact) : (gapReport e).Reports e :=
  { confidence := rfl
    method := by simp only [gapReport, orElse_eq]
    fullPath := by simp only [gapReport, orElse_eq]
    repo := rfl
    owner := rfl
    handler := rfl
    location := rfl }

/-- Every endpoint that cannot be matched has its report, in its place. -/
theorem forall₂_reports (gaps : List EndpointFact) :
    List.Forall₂ OrphanedEndpoint.Reports (gaps.map gapReport) gaps :=
  List.forall₂_map_left_iff.mpr (List.forall₂_same.mpr fun e _ => reports_gapReport e)

/-! ## Findings -/

section Findings
variable {b : Boundary} {s : Snapshot} {found : Findings} {conflicts : List Conflict}
  {e : EndpointFact}

theorem matching_of (b : Boundary) (s : Snapshot) :
    (Run.of b s).matching = Matching.run b (table s) s.calls := rfl

theorem analyze_eq_ok_iff : analyze b s = .ok found ↔
    ∃ conflicts, Dependency.conflicts s.declarations = .ok conflicts ∧
      found = (Run.of b s).findings conflicts := by
  rw [analyze]
  cases Dependency.conflicts s.declarations with
  | error o => simp [bind, Except.bind]
  | ok conflicts => simp [bind, Except.bind, eq_comm]

/-- Nothing but the declared versions stops an analysis. -/
theorem analyze_eq_error_iff {stop : Number.Overlong} :
    analyze b s = .error stop ↔ Dependency.conflicts s.declarations = .error stop := by
  rw [analyze]
  cases Dependency.conflicts s.declarations with
  | error o => simp [bind, Except.bind]
  | ok conflicts => simp [bind, Except.bind]

/-- A repository has a diagnostic just if it has registrations and cannot be built. -/
theorem isBroken_findings (repo : String) :
    ((Run.of b s).findings conflicts).isBroken repo =
      (decide (repo ∈ registered (usable s.facts)) && !isBuilt (usable s.facts) repo) := by
  rw [Bool.eq_iff_iff, Bool.and_eq_true, decide_eq_true_iff, Bool.not_eq_true', ← exists_fault_iff]
  simp [Findings.isBroken, Run.findings, Run.of, diagnostic, usable]

theorem isBroken_findings_of_endpoint (he : e ∈ s.endpoints) (h : isGap e = false) :
    ((Run.of b s).findings conflicts).isBroken e.repo = !isBuilt (usable s.facts) e.repo := by
  have hmem : e ∈ (usable s.facts).filterMap Fact.endpoint? := by
    rw [filterMap_endpoint?_usable]
    exact List.mem_filter.mpr ⟨he, by simp [h]⟩
  rw [isBroken_findings, decide_eq_true (mem_registered_of_endpoint hmem), Bool.true_and]

/-- The table, the calls and the endpoints that cannot be matched fix all but the diagnostics. -/
theorem findings_congr {s s' : Snapshot} (htable : table s' = table s) (hcalls : s'.calls = s.calls)
    (hgaps : gaps s'.facts = gaps s.facts) (conflicts : List Conflict) :
    (Run.of b s').findings conflicts = { (Run.of b s).findings conflicts with
      diagnostics := ((Run.of b s').findings conflicts).diagnostics } := by
  have hmatching : (Run.of b s').matching = (Run.of b s).matching := by
    rw [matching_of, matching_of, htable, hcalls]
  have hgaps : (Run.of b s').gaps = (Run.of b s).gaps := hgaps
  simp only [Run.findings, hmatching, hgaps]

/-- Without an endpoint of a repository that cannot be built the findings are the same, but for the
diagnostics. -/
theorem analyze_without {before after : List Fact}
    (hs : s.facts = before ++ .endpoint e :: after) (hgap : isGap e = false)
    (hlost : isBuilt (usable s.facts) e.repo = false) (h : analyze b s = .ok found) :
    table { s with facts := before ++ after } = table s ∧
      ∃ diagnostics,
        analyze b { s with facts := before ++ after } = .ok { found with diagnostics } := by
  obtain ⟨conflicts, hconflicts, rfl⟩ := analyze_eq_ok_iff.mp h
  have hgraphs : graphs (buildAll (usable (before ++ after))) =
      graphs (buildAll (usable s.facts)) := by
    rw [hs, usable_endpoint before after hgap] at hlost ⊢
    rw [usable, List.filter_append]
    exact graphs_buildAll_endpoint hlost
  have htable : table { s with facts := before ++ after } = table s := by
    rw [table, table, hgraphs]
  have hcalls : Snapshot.calls { s with facts := before ++ after } = s.calls := by
    have hcall : (Fact.endpoint e).call? = none := rfl
    simp [Snapshot.calls, hs, List.filterMap_cons_none hcall]
  have hgaps : gaps (before ++ after) = gaps s.facts := by
    simp [gaps, hs, Fact.endpoint?, hgap]
  exact ⟨htable, _, analyze_eq_ok_iff.mpr
    ⟨conflicts, hconflicts, (findings_congr htable hcalls hgaps conflicts).symm⟩⟩

end Findings

/-! ## Rows -/

/-- The rows of an endpoint that has a place in the graph of its repository: one for each path of
mounts down to the owner, of which there is at least one, all with the method as it is read. -/
structure ResolvesTo (facts : List Fact) (e : EndpointFact) (g : Graph) (rows : List Row) :
    Prop where
  built : build e.repo (registrations facts e.repo) = .ok g
  registered : ∃ i, g.endpoints[i]? = some (Endpoint.of e.repo i e) ∧
    rows = (g.chains (ownerOf e)).map (Endpoint.of e.repo i e).through
  chains : ∀ chain, chain ∈ g.chains (ownerOf e) ↔ g.IsDescent chain (ownerOf e)
  nodup : (g.chains (ownerOf e)).Nodup
  ne_nil : rows ≠ []
  method : ∀ r ∈ rows, r.method = Verb.canonical e.method ∧
    (r.method = Verb.any ∨ ∃ v : Verb, r.method = v.name)

theorem resolvesTo_rowsOf {facts : List Fact} {e : EndpointFact}
    (he : e ∈ facts.filterMap Fact.endpoint?) (hgap : isGap e = false)
    (hbuilt : isBuilt facts e.repo = true) : ∃ g, ResolvesTo facts e g (rowsOf facts e) := by
  obtain ⟨g, hbuild⟩ := exists_of_isBuilt hbuilt
  obtain ⟨hchains, hnodup⟩ := mem_chains_of_build hbuild (ownerOf e)
  obtain ⟨i, hi⟩ := exists_getElem?_of_build hbuild he
  have hrows := rowsOf_of_build hbuild
  refine ⟨g, hbuild, ⟨i, hi, by rw [hrows, through_of e.repo i]⟩, hchains, hnodup, ?_, ?_⟩
  · rw [hrows]
    exact fun hnil => g.chains_ne_nil _ (List.map_eq_nil_iff.mp hnil)
  · intro r hr
    rw [hrows] at hr
    obtain ⟨chain, -, rfl⟩ := List.mem_map.mp hr
    exact ⟨rfl, (Verb.registered?_eq_some_iff.mp (registered?_of_usable hgap)).2⟩

/-- Only the declared versions can stop an analysis; else every endpoint becomes one of three
things. Without a method or a path it is reported with low confidence, and these reports come last.
In a repository that has a diagnostic it does not show at all: without it the table is the same, and
the findings are but for the diagnostics. Every other one has its rows. The rows of these make up
the table, and all other reports of endpoints come from them. -/
theorem analyze_endpoints (b : Boundary) (s : Snapshot) :
    (∀ e, isGap e = true ↔ IsUnusable e) ∧
    (∀ stop, analyze b s = .error stop ↔ Dependency.conflicts s.declarations = .error stop) ∧
    ∀ found, analyze b s = .ok found → ∃ resolved : List EndpointFact,
      resolved.Perm (s.endpoints.filter fun e => !isGap e && !found.isBroken e.repo) ∧
      (∃ front reports, found.issues = front ++ reports.map .orphaned ∧
        List.Forall₂ OrphanedEndpoint.Reports reports (s.endpoints.filter isGap) ∧
        ∀ o, .orphaned o ∈ front → o.confidence = .high ∧
          ∃ e ∈ resolved, ∃ r ∈ rowsOf (usable s.facts) e, .orphaned o = orphan r) ∧
      (∀ before e after, s.facts = before ++ .endpoint e :: after → isGap e = false →
        found.isBroken e.repo = true → table { s with facts := before ++ after } = table s ∧
          ∃ diagnostics,
            analyze b { s with facts := before ++ after } = .ok { found with diagnostics }) ∧
      (∀ e ∈ resolved, ∃ g, ResolvesTo (usable s.facts) e g (rowsOf (usable s.facts) e)) ∧
      table s = numbered 0 (resolved.flatMap (rowsOf (usable s.facts))) ∧
      found.summary.endpointCount = (table s).length := by
  refine ⟨fun _ => isGap_iff, fun stop => analyze_eq_error_iff, fun found h => ?_⟩
  have hwithout := fun before e after (hs : s.facts = before ++ .endpoint e :: after) hgap hlost =>
    analyze_without hs hgap hlost h
  obtain ⟨conflicts, -, rfl⟩ := analyze_eq_ok_iff.mp h
  obtain ⟨resolved, hperm, hrows⟩ := exists_resolveAll_buildAll (usable s.facts)
  have htable : table s = numbered 0 (resolved.flatMap (rowsOf (usable s.facts))) := hrows
  have hendpoints : (usable s.facts).filterMap Fact.endpoint? =
      s.endpoints.filter fun e => !isGap e := filterMap_endpoint?_usable s.facts
  have hissues : ((Run.of b s).findings conflicts).issues =
      (Run.of b s).matching.issues ++ ((s.endpoints.filter isGap).map gapReport).map .orphaned := by
    rw [List.map_map]
    rfl
  refine ⟨resolved, ?_, ⟨_, _, hissues, forall₂_reports _, fun o ho => ?_⟩, ?_, fun e he => ?_,
    htable, ?_⟩
  · rw [hendpoints, List.filter_filter] at hperm
    rw [List.filter_congr (q := fun e => isBuilt (usable s.facts) e.repo && !isGap e)]
    · exact hperm
    · intro e he
      cases hgap : isGap e with
      | true => simp
      | false => simp [isBroken_findings_of_endpoint he hgap]
  · rw [matching_of, htable] at ho
    obtain ⟨placed, hplaced, heq⟩ := exists_row_of_orphaned ho
    obtain ⟨r, hr, order, rfl⟩ := exists_of_mem_numbered hplaced
    obtain ⟨e, he, hr⟩ := List.mem_flatMap.mp hr
    exact ⟨by cases heq; rfl, e, he, r, hr, heq⟩
  · intro before e after hs hgap hbroken
    have he : e ∈ s.endpoints := by simp [Snapshot.endpoints, hs, Fact.endpoint?]
    rw [isBroken_findings_of_endpoint he hgap, Bool.not_eq_true'] at hbroken
    exact hwithout before e after hs hgap hbroken
  · obtain ⟨he, hbuilt⟩ := List.mem_filter.mp (hperm.mem_iff.mp he)
    have hgap : isGap e = false := by
      rw [hendpoints] at he
      simpa using (List.mem_filter.mp he).2
    exact resolvesTo_rowsOf he hgap hbuilt
  · simp [Run.findings, matching_of, Matching.run, marked, fresh]

/-- One repository mounts a router on itself; of the other one an endpoint has a router with two
mounts, and another one has no path, so that it is reported with low confidence. -/
theorem analyze_endpoints_classes :
    let mount (repo parent child mountPoint : String) : Fact :=
      .mount { parent, child, mountPoint, repo }
    let endpoint (repo method path : String) : EndpointFact :=
      { method, path, owner := "r", repo }
    let s : Snapshot :=
      { facts := [mount "shop" "app" "r" "/v1", .endpoint (endpoint "shop" "get" "/x"),
          .endpoint (endpoint "shop" "POST" " "), mount "shop" "app" "r" "/v2",
          mount "web" "r" "r" "/", .endpoint (endpoint "web" "GET" "/y")] }
    ∃ found, analyze {} s = .ok found ∧ found.isBroken "web" = true ∧
      (∃ front report, found.issues = front ++ [.orphaned report] ∧
        report.Reports (endpoint "shop" "POST" " ") ∧
        report.confidence = .low ∧ report.method = "POST" ∧ report.fullPath = "(empty)") ∧
      (∃ resolved : List EndpointFact, resolved.Perm [endpoint "shop" "get" "/x"] ∧
        table s = numbered 0 (resolved.flatMap (rowsOf (usable s.facts)))) ∧
      found.summary.endpointCount = 2 := by
  intro mount endpoint s
  have hok : analyze {} s = .ok ((Run.of {} s).findings []) :=
    analyze_eq_ok_iff.mpr ⟨[], rfl, rfl⟩
  obtain ⟨resolved, hperm, ⟨front, reports, hissues, hreports, -⟩, -, -, htable, -⟩ :=
    (analyze_endpoints {} s).2.2 _ hok
  have hresolved : (s.endpoints.filter fun e =>
      !isGap e && !((Run.of {} s).findings []).isBroken e.repo) = [endpoint "shop" "get" "/x"] := by
    decide +kernel
  rw [hresolved] at hperm
  have hgaps : s.endpoints.filter isGap = [endpoint "shop" "POST" " "] := by decide +kernel
  rw [hgaps] at hreports
  obtain ⟨report, _, hreport, hnil, rfl⟩ := List.forall₂_cons_right_iff.mp hreports
  obtain rfl := List.forall₂_nil_right_iff.mp hnil
  have hmethod := hreport.method.trans (by decide +kernel : _ = "POST")
  have hpath := hreport.fullPath.trans (by decide +kernel : _ = "(empty)")
  exact ⟨_, hok, by decide +kernel,
    ⟨front, report, hissues, hreport, hreport.confidence, hmethod, hpath⟩,
    ⟨resolved, hperm, htable⟩, by decide +kernel⟩

end ServiceContracts.Analysis
