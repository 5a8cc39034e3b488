import Mathlib.Data.List.Induction
import ServiceContracts.Proofs.Analysis.Endpoints
import ServiceContracts.Proofs.Grouping

/-!
# Streams of facts

One pass over the facts is enough to part them: endpoints that cannot be matched, calls, and for
each repository what it registers. How these streams are interleaved is then forgotten, so the
findings cannot depend on it.

* `Intake`, `Intake.add` : what has been collected so far, and one more fact;
* `Intake.Holds`, `Intake.Holds.add` : the streams of the facts so far, kept by every fact;
* `foldl_add_eq` : what a whole pass collects;
* `SameStreams` : facts that differ in the way their streams are interleaved only;
* `analyze_streams` : their findings are the same.
-/

namespace ServiceContracts.Analysis
open Mount Matching

/-! ## One pass -/

/-- What has been collected of the facts so far. -/
structure Intake where
  gaps : List EndpointFact := []
  calls : List CallFact := []
  repos : List (String × List Fact) := []

/-- A registration put with those of its repository. -/
def file (f : Fact) : List (String × List Fact) → List (String × List Fact)
  | [] => [(f.repo, [f])]
  | own :: repos =>
    if own.1 = f.repo then (own.1, own.2 ++ [f]) :: repos else own :: file f repos

namespace Intake

/-- One more fact. -/
def add (intake : Intake) : Fact → Intake
  | .endpoint e =>
    if isGap e then { intake with gaps := intake.gaps ++ [e] }
    else { intake with repos := file (.endpoint e) intake.repos }
  | .call c => { intake with calls := intake.calls ++ [c] }
  | .mount m => { intake with repos := file (.mount m) intake.repos }
  | .middleware _ => intake
  | .irrelevant _ => intake

/-- The parts of an analysis, from what has been collected. -/
def run (b : Boundary) (intake : Intake) : Run :=
  let outcomes := intake.repos.map fun own => build own.1 own.2
  { gaps := intake.gaps, outcomes
    matching := Matching.run b (resolveAll (graphs outcomes)) intake.calls }

end Intake

/-- The registrations that are built, in order. -/
def filed (facts : List Fact) : List Fact := (usable facts).filter isRegistration

namespace Intake

/-- Registrations by repository. -/
abbrev IsFiled : List Fact → List (String × List Fact) → Prop :=
  IsGrouping Fact.repo Prod.fst fun own g => g.2 = own

/-- The streams of some facts have been collected. -/
structure Holds (facts : List Fact) (intake : Intake) : Prop where
  gaps : intake.gaps = Analysis.gaps facts
  calls : intake.calls = facts.filterMap Fact.call?
  repos : IsFiled (filed facts) intake.repos

end Intake

section Pass
variable {facts : List Fact} {f : Fact} {intake : Intake}

theorem takesIn_file (f : Fact) (repos : List (String × List Fact)) :
    TakesIn Prod.fst f.repo (· = (f.repo, [f])) (fun g g' => g' = (g.1, g.2 ++ [f]))
      repos (file f repos) := by
  induction repos with
  | nil => exact .last rfl
  | cons own repos ih =>
    rw [file]
    split
    · next hrepo => exact .here hrepo rfl
    · next hrepo => exact .there hrepo ih

theorem Intake.IsFiled.file {own : List Fact} {repos : List (String × List Fact)}
    (h : IsFiled own repos) (f : Fact) : IsFiled (own ++ [f]) (Analysis.file f repos) := by
  refine h.concat (takesIn_file f repos) ?_ ?_
  · rintro _ rfl
    exact ⟨rfl, rfl⟩
  · rintro g _ hrepo rfl
    exact ⟨hrepo, fun own hown => by rw [hown]⟩

theorem gaps_concat (facts : List Fact) (f : Fact) :
    gaps (facts ++ [f]) = gaps facts ++ gaps [f] := by
  simp [gaps]

theorem filed_concat (facts : List Fact) (f : Fact) :
    filed (facts ++ [f]) = filed facts ++ filed [f] := by
  simp [filed, usable]

/-- Every fact is put where its stream is collected, and changes no other one. -/
theorem Intake.Holds.add (h : intake.Holds facts) (f : Fact) :
    (intake.add f).Holds (facts ++ [f]) := by
  obtain ⟨hgaps, hcalls, hrepos⟩ := h
  suffices hone : (intake.add f).gaps = intake.gaps ++ Analysis.gaps [f] ∧
      (intake.add f).calls = intake.calls ++ [f].filterMap Fact.call? ∧
      IsFiled (filed facts ++ filed [f]) (intake.add f).repos by
    obtain ⟨honeGaps, honeCalls, honeRepos⟩ := hone
    exact ⟨by rw [honeGaps, hgaps, gaps_concat], by rw [honeCalls, hcalls, List.filterMap_append],
      by rwa [filed_concat]⟩
  cases f with
  | endpoint e =>
    cases hgap : isGap e with
    | true =>
      have hfiled : filed [.endpoint e] = [] := by simp [filed, usable, isGapFact, hgap]
      simpa [Intake.add, Analysis.gaps, Fact.endpoint?, Fact.call?, hgap, hfiled] using hrepos
    | false =>
      have hfiled : filed [.endpoint e] = [.endpoint e] := by
        simp [filed, usable, isGapFact, isRegistration, hgap]
      simpa [Intake.add, Analysis.gaps, Fact.endpoint?, Fact.call?, hgap, hfiled] using
        hrepos.file (.endpoint e)
  | mount m =>
    have hfiled : filed [.mount m] = [.mount m] := rfl
    simpa [Intake.add, Analysis.gaps, Fact.endpoint?, Fact.call?, hfiled] using
      hrepos.file (.mount m)
  | call c =>
    have hfiled : filed [.call c] = [] := rfl
    simpa [Intake.add, Analysis.gaps, Fact.endpoint?, Fact.call?, hfiled] using hrepos
  | middleware s =>
    have hfiled : filed [.middleware s] = [] := rfl
    simpa [Intake.add, Analysis.gaps, Fact.endpoint?, Fact.call?, hfiled] using hrepos
  | irrelevant s =>
    have hfiled : filed [.irrelevant s] = [] := rfl
    simpa [Intake.add, Analysis.gaps, Fact.endpoint?, Fact.call?, hfiled] using hrepos

theorem holds_foldl_add (facts : List Fact) : (facts.foldl Intake.add {}).Holds facts := by
  induction facts using List.reverseRecOn with
  | nil => exact ⟨rfl, rfl, .nil⟩
  | append_singleton facts f ih =>
    rw [List.foldl_append]
    exact ih.add f

theorem registrations_eq_filter (facts : List Fact) (repo : String) :
    registrations facts repo = (facts.filter isRegistration).filter fun f => f.repo = repo := by
  rw [registrations, List.filter_filter]
  exact List.filter_congr fun f _ => Bool.and_comm _ _

theorem foldl_add_eq (facts : List Fact) : facts.foldl Intake.add {} =
    { gaps := gaps facts, calls := facts.filterMap Fact.call?
      repos := (registered (usable facts)).map fun repo =>
        (repo, registrations (usable facts) repo) } := by
  obtain ⟨hgaps, hcalls, hrepos⟩ := holds_foldl_add facts
  have heq := hrepos.eq_map (fun repo => (repo, registrations (usable facts) repo))
    fun g _ hown => Prod.ext rfl (hown.trans (registrations_eq_filter _ _).symm)
  rw [← hgaps, ← hcalls, registered, ← filed, ← heq]

end Pass

/-- One pass collects all that an analysis needs. -/
theorem of_eq_run_foldl (b : Boundary) (s : Snapshot) :
    Run.of b s = (s.facts.foldl Intake.add {}).run b := by
  rw [foldl_add_eq, Intake.run]
  simp only [List.map_map]
  rfl

/-! ## Interleavings -/

/-- The same calls, the same endpoints that cannot be matched, and of the same repositories, in the
order of their first registrations, the same registrations. Nothing is said of how these are
interleaved, and nothing of all other facts. -/
structure SameStreams (facts facts' : List Fact) : Prop where
  calls : facts.filterMap Fact.call? = facts'.filterMap Fact.call?
  gaps : facts.filter isGapFact = facts'.filter isGapFact
  repos : registered (usable facts) = registered (usable facts')
  own : ∀ repo, registrations (usable facts) repo = registrations (usable facts') repo

section Interleavings
variable {facts facts' : List Fact} {b : Boundary} {s s' : Snapshot}

theorem gaps_eq_filterMap (facts : List Fact) :
    gaps facts = (facts.filter isGapFact).filterMap Fact.endpoint? := by
  have hgap : ∀ e, isGapFact (.endpoint e) = isGap e := fun _ => rfl
  rw [gaps, filterMap_endpoint?_filter hgap]

/-- All other repositories have no registrations. -/
theorem registrations_eq_nil {repo : String} (h : repo ∉ registered facts) :
    registrations facts repo = [] := by
  apply List.filter_eq_nil_iff.mpr
  intro f hf hown
  rw [Bool.and_eq_true, beq_iff_eq] at hown
  exact h (mem_registered.mpr ⟨f, hf, hown⟩)

/-- Only the repositories with registrations need be compared. -/
theorem SameStreams.of_registered
    (hcalls : facts.filterMap Fact.call? = facts'.filterMap Fact.call?)
    (hgaps : facts.filter isGapFact = facts'.filter isGapFact)
    (hrepos : registered (usable facts) = registered (usable facts'))
    (hown : ∀ repo ∈ registered (usable facts),
      registrations (usable facts) repo = registrations (usable facts') repo) :
    SameStreams facts facts' := by
  refine ⟨hcalls, hgaps, hrepos, fun repo => ?_⟩
  by_cases hrepo : repo ∈ registered (usable facts)
  · exact hown repo hrepo
  · rw [registrations_eq_nil hrepo, registrations_eq_nil (hrepos ▸ hrepo)]

theorem SameStreams.foldl_add_eq (h : SameStreams facts facts') :
    facts.foldl Intake.add {} = facts'.foldl Intake.add {} := by
  rw [Analysis.foldl_add_eq, Analysis.foldl_add_eq, gaps_eq_filterMap, gaps_eq_filterMap, h.gaps,
    h.calls, h.repos]
  simp only [h.own]

end Interleavings

/-- An analysis reads the facts in one pass, and the interleaving of their streams does not matter:
the findings are the same for all facts with the same streams. -/
theorem analyze_streams (b : Boundary) :
    (∀ s, Run.of b s = (s.facts.foldl Intake.add {}).run b) ∧
    ∀ s s' : Snapshot, s.declarations = s'.declarations → SameStreams s.facts s'.facts →
      analyze b s = analyze b s' := by
  refine ⟨of_eq_run_foldl b, fun s s' hdeclarations h => ?_⟩
  rw [analyze, analyze, of_eq_run_foldl, of_eq_run_foldl, h.foldl_add_eq, hdeclarations]

/-- Two repositories, the mounts of one of them forming a cycle, a call and an endpoint without a
path: together, and repository by repository. -/
theorem analyze_streams_parted :
    let mount (repo parent child : String) : Fact := .mount { parent, child, repo }
    let endpoint (repo path : String) : Fact :=
      .endpoint { method := "GET", path, owner := "r", repo }
    let call : Fact := .call { method := "GET", url := "/x", callerRepo := "web" }
    let mixed := [mount "shop" "app" "r", .middleware {}, call, mount "web" "a" "b",
      endpoint "shop" " ", endpoint "shop" "/x", mount "web" "b" "a", endpoint "shop" "/y"]
    let parted := [mount "shop" "app" "r", endpoint "shop" "/x", endpoint "shop" "/y",
      mount "web" "a" "b", mount "web" "b" "a", endpoint "shop" " ", call]
    SameStreams mixed parted ∧ analyze {} { facts := mixed } = analyze {} { facts := parted } := by
  intro mount endpoint call mixed parted
  have hsame : SameStreams mixed parted :=
    .of_registered (by decide +kernel) (by decide +kernel) (by decide +kernel) (by decide +kernel)
  exact ⟨hsame, (analyze_streams {}).2 { facts := mixed } { facts := parted } rfl hsame⟩

end ServiceContracts.Analysis
