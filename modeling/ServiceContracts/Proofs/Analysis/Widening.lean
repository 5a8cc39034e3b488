import ServiceContracts.Proofs.Analysis.Endpoints
import ServiceContracts.Proofs.Matching.Suggestion

/-!
# Findings under a wider boundary

The table of endpoints and the endpoints that cannot be matched do not depend on the boundary. So a
wider boundary concerns the issues about calls and the unused endpoints only, and of these it adds
none.

* `Issue.isUnused`, `filter_isUnused_findings` : the reports of endpoints that no call uses;
* `issues_findings` : the issues of calls, of unused endpoints and of those that cannot be matched;
* `analyze_merge` : two boundaries put together;
* `analyze_listed` : a variable that was suggested, listed on either side.
-/

namespace ServiceContracts

/-- The issue is about an endpoint that can be matched and is not used. -/
def Issue.isUnused : Issue → Bool
  | orphaned o => o.confidence = .high
  | _ => false

theorem Issue.isUnused_of_call? {issue : Issue} (h : issue.call?.isSome = true) :
    issue.isUnused = false := by
  cases issue with
  | orphaned o => cases h
  | missing m => rfl
  | mismatch m => rfl
  | suggestion s => rfl

end ServiceContracts

namespace ServiceContracts.Analysis
open Boundary Matching

/-! ## Kinds of issues -/

section Issues
variable {b b' : Boundary} {name : String}

theorem issues_findings (b : Boundary) (s : Snapshot) (conflicts : List Conflict) :
    ((Run.of b s).findings conflicts).issues = (Matching.run b (table s) s.calls).callIssues ++
      (orphans (Matching.run b (table s) s.calls).rows).map orphan ++
        (gaps s.facts).map gapIssue := by
  rw [← issues_run]
  rfl

theorem call?_of_mem_callIssues {o : Outcome} {issue : Issue} (h : issue ∈ o.callIssues) :
    issue.call?.isSome = true :=
  (List.mem_filter.mp h).2

theorem filter_isUnused_findings (b : Boundary) (s : Snapshot) (conflicts : List Conflict) :
    ((Run.of b s).findings conflicts).issues.filter Issue.isUnused =
      (orphans (Matching.run b (table s) s.calls).rows).map orphan := by
  have hcalls : (Matching.run b (table s) s.calls).callIssues.filter Issue.isUnused = [] := by
    apply List.filter_eq_nil_iff.mpr
    intro issue hissue
    rw [Issue.isUnused_of_call? (call?_of_mem_callIssues hissue)]
    exact Bool.false_ne_true
  have horphans : ∀ rows : List Mount.Row,
      (rows.map orphan).filter Issue.isUnused = rows.map orphan :=
    filter_map_eq_self fun _ => rfl
  have hgaps : ((gaps s.facts).map gapIssue).filter Issue.isUnused = [] :=
    filter_map_eq_nil (fun _ => rfl) _
  rw [issues_findings, List.filter_append, List.filter_append, hcalls, horphans, hgaps]
  simp

/-- A wider boundary leaves no other endpoints unused. -/
theorem isUnused_sublist_of_within (hb : Within b b') (s : Snapshot) (conflicts : List Conflict) :
    (((Run.of b' s).findings conflicts).issues.filter Issue.isUnused).Sublist
      (((Run.of b s).findings conflicts).issues.filter Issue.isUnused) := by
  rw [filter_isUnused_findings, filter_isUnused_findings]
  exact orphans_run_sublist hb (table s) s.calls

/-- The issues that are neither about a call based on the variable nor about an unused endpoint. -/
def isUnrelated (b : Boundary) (name : String) (issue : Issue) : Bool :=
  !issue.isBasedOn b name && !issue.isUnused

theorem filter_isUnrelated_findings (b b' : Boundary) (s : Snapshot) (conflicts : List Conflict) :
    ((Run.of b' s).findings conflicts).issues.filter (isUnrelated b name) =
      (Matching.run b' (table s) s.calls).callIssues.filter (fun i => !i.isBasedOn b name) ++
        (gaps s.facts).map gapIssue := by
  have hcalls : (Matching.run b' (table s) s.calls).callIssues.filter (isUnrelated b name) =
      (Matching.run b' (table s) s.calls).callIssues.filter fun i => !i.isBasedOn b name := by
    apply List.filter_congr
    intro issue hissue
    simp [isUnrelated, Issue.isUnused_of_call? (call?_of_mem_callIssues hissue)]
  have horphans : ∀ rows : List Mount.Row, (rows.map orphan).filter (isUnrelated b name) = [] :=
    filter_map_eq_nil fun r => by simp [isUnrelated, Issue.isUnused, orphan]
  have hgaps : ((gaps s.facts).map gapIssue).filter (isUnrelated b name) =
      (gaps s.facts).map gapIssue :=
    filter_map_eq_self (fun _ => rfl) _
  rw [issues_findings, List.filter_append, List.filter_append, hcalls, horphans, hgaps,
    List.append_nil]

end Issues

/-! ## Two boundaries put together -/

/-- Put together with another one, a boundary keeps what is inside, with its path, and what cannot
be told; what is outside stays there or comes inside with its path, a base alone as the root; and a
variable is not mentioned only if it was not mentioned before. So it is only by the declared
versions that an analysis stops, as before, and every endpoint that is unused now was unused. -/
theorem analyze_merge (b c : Boundary) :
    (∀ raw,
      let n := b.normalize raw
      let m := (b.merge c).normalize raw
      (n.isInternal = true → m.isInternal = true ∧ m.path? = n.path?) ∧
      (n.standing = .unclassified → m.standing = .unclassified ∧ m.path? = n.path?) ∧
      (n.isExternal = true → m.isExternal = true ∧ m.path? = n.path? ∨
        m.isInternal = true ∧ m.path? = some (n.path?.getD "/")) ∧
      (m.unlisted? = n.unlisted? ∨ m.unlisted? = none)) ∧
    ∀ s, (∀ stop, analyze (b.merge c) s = .error stop ↔ analyze b s = .error stop) ∧
      ∀ found', analyze (b.merge c) s = .ok found' → ∃ found, analyze b s = .ok found ∧
        (found'.issues.filter Issue.isUnused).Sublist (found.issues.filter Issue.isUnused) := by
  have hwithin := within_merge b c
  refine ⟨fun raw => ?_, fun s => ⟨fun stop => ?_, fun found' h => ?_⟩⟩
  · have hmoves := hwithin.moves raw
    exact ⟨hmoves.inside, hmoves.unclassified, hmoves.outside, hmoves.unlisted⟩
  · rw [analyze_eq_error_iff, analyze_eq_error_iff]
  · obtain ⟨conflicts, hconflicts, rfl⟩ := analyze_eq_ok_iff.mp h
    exact ⟨_, analyze_eq_ok_iff.mpr ⟨conflicts, hconflicts, rfl⟩,
      isUnused_sublist_of_within hwithin s conflicts⟩

/-- A host and a variable come inside, the variable as a base alone, and two endpoints come to be
used; the third one is called behind a variable that stays outside. -/
theorem analyze_merge_entering :
    let b : Boundary := { externalVariables := ["API"] }
    let c : Boundary := { internalDomains := ["shop.test"], internalVariables := ["API"] }
    let endpoint (path : String) : Fact :=
      .endpoint { method := "GET", path, owner := "app", repo := "shop" }
    let call (url : String) : Fact := .call { method := "GET", url, callerRepo := "web" }
    let s : Snapshot :=
      { facts := [endpoint "/", endpoint "/users", endpoint "/orders", call "${API}",
          call "https://eu.shop.test/users", call "${OTHER}/orders"] }
    ((b.merge c).normalize "${API}").path? = some "/" ∧
      ∃ found found', analyze b s = .ok found ∧ analyze (b.merge c) s = .ok found' ∧
        (found'.issues.filter Issue.isUnused).Sublist (found.issues.filter Issue.isUnused) ∧
        (found.issues.filter Issue.isUnused).length = 3 ∧
        (found'.issues.filter Issue.isUnused).length = 1 := by
  intro b c endpoint call s
  obtain ⟨hmoves, hanalyze⟩ := analyze_merge b c
  have houtside : (b.normalize "${API}").isExternal = true := by decide +kernel
  have hinside : ((b.merge c).normalize "${API}").isExternal = false := by decide +kernel
  have hbare : (b.normalize "${API}").path? = none := by decide +kernel
  have hpath : ((b.merge c).normalize "${API}").path? = some "/" := by
    rcases (hmoves "${API}").2.2.1 houtside with ⟨hexternal, -⟩ | ⟨-, hpath⟩
    · rw [hinside] at hexternal
      cases hexternal
    · rwa [hbare] at hpath
  have hok : analyze (b.merge c) s = .ok ((Run.of (b.merge c) s).findings []) :=
    analyze_eq_ok_iff.mpr ⟨[], rfl, rfl⟩
  obtain ⟨found, hfound, hsublist⟩ := (hanalyze s).2 _ hok
  obtain ⟨conflicts, hconflicts, rfl⟩ := analyze_eq_ok_iff.mp hfound
  cases hconflicts
  exact ⟨hpath, _, _, hfound, hok, hsublist, by decide +kernel, by decide +kernel⟩

/-! ## A variable listed -/

section Listed
variable (b : Boundary) (s : Snapshot) (name : String) (conflicts : List Conflict)

theorem findings_listExternal : (Run.of (b.listExternal name) s).findings conflicts =
    { (Run.of b s).findings conflicts with
      issues := ((Run.of b s).findings conflicts).issues.filter fun i => !i.suggests name } := by
  have hissues := issues_run_listExternal b (table s) s.calls name
  have hrows := rows_run_listExternal b (table s) s.calls name
  have hgaps : ((gaps s.facts).map gapIssue).filter (fun i => !i.suggests name) =
      (gaps s.facts).map gapIssue :=
    filter_map_eq_self (fun _ => rfl) _
  have hgapsOf : ∀ b, (Run.of b s).gaps = gaps s.facts := fun _ => rfl
  have hcount : ∀ b, (Matching.run b (table s) s.calls).callCount = (distinctCalls s.calls).length :=
    fun _ => rfl
  have houtcomes : (Run.of (b.listExternal name) s).outcomes = (Run.of b s).outcomes := rfl
  simp only [Run.findings, matching_of, hissues, hrows, hcount, hgapsOf, houtcomes,
    List.filter_append, hgaps]

theorem findings_listInternal : (Run.of (b.listInternal name) s).findings conflicts =
    { (Run.of b s).findings conflicts with
      issues := ((Run.of (b.listInternal name) s).findings conflicts).issues } := by
  have hlength : ∀ b, (Matching.run b (table s) s.calls).rows.length = (table s).length := by
    intro b
    have hmap := congrArg List.length (map_unmarked_run b (table s) s.calls)
    rwa [List.length_map, List.length_map] at hmap
  have hcount : ∀ b, (Matching.run b (table s) s.calls).callCount = (distinctCalls s.calls).length :=
    fun _ => rfl
  have houtcomes : (Run.of (b.listInternal name) s).outcomes = (Run.of b s).outcomes := rfl
  simp only [Run.findings, matching_of, hlength, hcount, houtcomes]

theorem not_suggests_findings_listInternal {issue : Issue}
    (h : issue ∈ ((Run.of (b.listInternal name) s).findings conflicts).issues) :
    issue.suggests name = false := by
  rcases List.mem_append.mp h with h | h
  · exact not_suggests_listInternal h
  · obtain ⟨e, -, rfl⟩ := List.mem_map.mp h
    rfl

end Listed

/-- A variable that is suggested may be listed on either side. Listed as external, its suggestions
are gone and all else is as before. Listed as internal, there is none of them either; every call
that is not based on it gets the same issue or none, as before; no other endpoint is unused; and
apart from the calls based on it and the unused endpoints, the findings are the same. -/
theorem analyze_listed (b : Boundary) (s : Snapshot) (name : String) :
    analyze (b.listExternal name) s = (analyze b s).map (fun found =>
      { found with issues := found.issues.filter fun issue => !issue.suggests name }) ∧
    ∀ found, analyze b s = .ok found → ∃ issues,
      analyze (b.listInternal name) s = .ok { found with issues } ∧
      (∀ issue ∈ issues, issue.suggests name = false) ∧
      (∀ c, (b.normalize c.url).envVar? ≠ some name →
        (decision (b.listInternal name) (fresh (table s)) c).issue? =
          (decision b (fresh (table s)) c).issue?) ∧
      issues.filter (isUnrelated b name) = found.issues.filter (isUnrelated b name) ∧
      (issues.filter Issue.isUnused).Sublist (found.issues.filter Issue.isUnused) := by
  constructor
  · rw [analyze, analyze]
    cases Dependency.conflicts s.declarations with
    | error stop => rfl
    | ok conflicts => exact congrArg Except.ok (findings_listExternal b s name conflicts)
  · intro found h
    obtain ⟨conflicts, hconflicts, rfl⟩ := analyze_eq_ok_iff.mp h
    refine ⟨((Run.of (b.listInternal name) s).findings conflicts).issues, ?_, fun issue hissue => ?_,
      fun c hc => ?_, ?_, isUnused_sublist_of_within (within_listInternal b name) s conflicts⟩
    · rw [← findings_listInternal]
      exact analyze_eq_ok_iff.mpr ⟨conflicts, hconflicts, rfl⟩
    · exact not_suggests_findings_listInternal b s name conflicts hissue
    · rw [decision_listInternal hc]
    · rw [filter_isUnrelated_findings, filter_isUnrelated_findings, callIssues_listInternal]

/-- Three spellings of one variable, in two of which a path is served, and a call based on another
variable: what is left of the issues when the first variable is listed on either side. -/
theorem analyze_listed_spellings :
    let endpoint (path : String) : Fact :=
      .endpoint { method := "GET", path, owner := "app", repo := "shop" }
    let call (url : String) : Fact := .call { method := "GET", url, callerRepo := "web" }
    let s : Snapshot :=
      { facts := [endpoint "/users", call "${API}/users", call "ENV_VAR:API:/none",
          call "https://${API}:80/users", call "${CDN}/logo"] }
    let suggestions (issues : List Issue) : List String :=
      issues.filterMap fun i => i.suggestion?.map VariableSuggestion.envVar
    ∃ found, analyze {} s = .ok found ∧ suggestions found.issues = ["API", "API", "API", "CDN"] ∧
      analyze (({} : Boundary).listExternal "API") s = .ok { found with
        issues := found.issues.filter fun issue => !issue.suggests "API" } ∧
      ∃ issues, analyze (({} : Boundary).listInternal "API") s = .ok { found with issues } ∧
        (∀ issue ∈ issues, issue.suggests "API" = false) ∧
        issues.filter (isUnrelated {} "API") = found.issues.filter (isUnrelated {} "API") ∧
        (found.issues.filter Issue.isUnused).length = 1 ∧ issues.filter Issue.isUnused = [] := by
  intro endpoint call s suggestions
  have hok : analyze {} s = .ok ((Run.of {} s).findings []) :=
    analyze_eq_ok_iff.mpr ⟨[], rfl, rfl⟩
  obtain ⟨hexternal, hinternal⟩ := analyze_listed {} s "API"
  obtain ⟨issues, hissues, hnone, -, hunrelated, -⟩ := hinternal _ hok
  rw [hok] at hexternal
  have hunused : (analyze (({} : Boundary).listInternal "API") s).toOption.map
      (fun found => found.issues.filter Issue.isUnused) = some [] := by decide +kernel
  rw [hissues] at hunused
  exact ⟨_, hok, by decide +kernel, hexternal, issues, hissues, hnone, hunrelated,
    by decide +kernel, Option.some.inj hunused⟩

end ServiceContracts.Analysis
