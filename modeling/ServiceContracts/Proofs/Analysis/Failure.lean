import ServiceContracts.Proofs.Analysis.Widening
import ServiceContracts.Proofs.Dependency.Numeral
import ServiceContracts.Proofs.Dependency.Overlong
import ServiceContracts.Proofs.Mount.Fault

/-!
# What stops an analysis

An analysis looks up names among the nodes of a graph, takes the ends of a cycle, asks a target for
its path or its variable, and takes the best of the rows that serve a call. Where nothing would be
found, `build` and `decision` go on with a default. Here the same steps stop instead, and it is
shown that they never do: what is left is an overlong version number.

* `Lapse` : all that a step might stop for;
* `buildStrict`, `decisionStrict`, `analyzeStrict` : the steps without defaults;
* `buildStrict_eq`, `decisionStrict_eq`, `analyzeStrict_eq` : they are the steps with them;
* `analyze_stops` : when an analysis stops, and that it ends with its findings otherwise.
-/

namespace ServiceContracts.Analysis
open Dependency Matching Mount Number

/-! ## Steps without defaults -/

/-- Why a step might stop. -/
inductive Lapse where
  | overlong (o : Overlong)
  /-- A mount or an endpoint mentions a name that is no node. -/
  | stray (repo name : String)
  /-- A cycle without nodes. -/
  | hollow (repo : String)
  /-- A target inside the boundary without a path. -/
  | pathless (url : String)
  /-- A target behind a variable without a name. -/
  | nameless (url : String)
  /-- Rows that serve a call, none of which is the best. -/
  | undecided (url : String)
deriving DecidableEq, Repr

/-- What a lookup finds, which has to be something. -/
def demand {α : Type} (lapse : Lapse) : Option α → Except Lapse α
  | some a => .ok a
  | none => .error lapse

def buildStrict (repo : String) (facts : List Fact) : Except Lapse (Except Fault Graph) :=
  match blankMount? facts with
  | some m => .ok (.error (.unknownNode repo m.parent m.child))
  | none =>
    let graph := collect repo facts
    match graph.stray? with
    | some name => .error (.stray repo name)
    | none =>
      match graph.cycle? with
      | some path => do
        let first ← demand (.hollow repo) path.head?
        let last ← demand (.hollow repo) path.dropLast.getLast?
        .ok (.error (.cycle repo first last path))
      | none => .ok (.ok graph)

def decisionAtStrict (table : List Place) (c : CallFact) (verb : Verb) (path : String) :
    Except Lapse Decision :=
  let candidates := serving table verb.name path ++ serving table Verb.any path
  if candidates = [] then .ok (decisionAt table c verb path)
  else do
    let place ← demand (.undecided c.url) (best? candidates)
    .ok (.served place.2)

def decisionStrict (boundary : Boundary) (table : List Place) (c : CallFact) :
    Except Lapse Decision :=
  match Verb.read? c.method with
  | none =>
    let method := Verb.canonical c.method
    .ok (.raised (unplaced c (if method.isEmpty then "UNKNOWN" else method) c.url))
  | some verb =>
    if Text.isBlankText c.url then .ok (.raised (unplaced c verb.name c.url))
    else
      let target := boundary.normalize c.url
      match target.standing with
      | .external => .ok .ignored
      | .unlisted => do
        let name ← demand (.nameless c.url) target.envVar?
        .ok (.raised (.suggestion { method := verb.name, rawUrl := c.url, envVar := name,
                                    path := target.path?, callerRepo := c.callerRepo,
                                    location := c.location }))
      | .unclassified => .ok (.raised (unplaced c verb.name (target.path?.getD c.url)))
      | .internal => do
        let path ← demand (.pathless c.url) target.path?
        decisionAtStrict table c verb path

def runStrict (boundary : Boundary) (rows : List Row) (calls : List CallFact) :
    Except Lapse Outcome := do
  let calls := distinctCalls calls
  let decisions ← calls.mapM (decisionStrict boundary (fresh rows))
  let rows := marked (fresh rows) decisions
  .ok { issues := decisions.filterMap Decision.issue? ++ (orphans rows).map orphan
        rows, callCount := calls.length }

def analyzeStrict (boundary : Boundary) (s : Snapshot) : Except Lapse Findings := do
  let facts := usable s.facts
  let outcomes ← (registered facts).mapM fun repo => buildStrict repo (registrations facts repo)
  let matching ← runStrict boundary (resolveAll (graphs outcomes)) s.calls
  let conflicts ← (Dependency.conflicts s.declarations).mapError Lapse.overlong
  .ok (({ gaps := gaps s.facts, outcomes, matching } : Run).findings conflicts)

/-! ## No default is used -/

theorem buildStrict_eq (repo : String) (facts : List Fact) :
    buildStrict repo facts = .ok (build repo facts) := by
  cases hblank : blankMount? facts with
  | some m =>
    rw [build_of_blankMount? hblank]
    simp only [buildStrict, hblank]
  | none =>
    simp only [buildStrict, hblank, stray?_collect]
    cases hpath : (collect repo facts).cycle? with
    | none => rw [build_of_acyclic hblank hpath]
    | some path =>
      obtain ⟨first, last, hcycle⟩ := isCycle_of_cycle?_collect hpath
      obtain ⟨hhead, hlast⟩ := hcycle.ends_eq_some
      rw [build_of_cycle hblank hpath hcycle]
      simp only [hhead, hlast]
      rfl

section Decision
variable {b : Boundary} {rows : List Row} {table : List Place} {c : CallFact}

theorem exists_envVar?_of_unlisted {raw : String} (h : (b.normalize raw).standing = .unlisted) :
    ∃ name, (b.normalize raw).envVar? = some name := by
  obtain ⟨name, hname⟩ := Boundary.exists_unlisted?_iff.mpr h
  exact ⟨name, (Boundary.unlisted?_eq_some_iff.mp hname).1⟩

theorem decisionAtStrict_eq (table : List Place) (c : CallFact) (verb : Verb) (path : String) :
    decisionAtStrict table c verb path = .ok (decisionAt table c verb path) := by
  rw [decisionAtStrict]
  split
  · rfl
  · next hne =>
    obtain ⟨place, hbest⟩ := Option.ne_none_iff_exists'.mp (mt best?_eq_none_iff.mp hne)
    rw [decisionAt, answer?, hbest]
    rfl

theorem decisionStrict_eq (b : Boundary) (table : List Place) (c : CallFact) :
    decisionStrict b table c = .ok (decision b table c) := by
  unfold decisionStrict decision
  cases Verb.read? c.method with
  | none => simp only
  | some verb =>
    simp only
    by_cases hblank : Text.isBlankText c.url = true
    · simp only [if_pos hblank]
    · simp only [if_neg hblank]
      cases hstanding : (b.normalize c.url).standing with
      | external => simp only
      | unclassified => simp only
      | unlisted =>
        obtain ⟨name, hname⟩ := exists_envVar?_of_unlisted hstanding
        simp only [hname, Option.getD_some]
        rfl
      | internal =>
        obtain ⟨path, hpath⟩ := Boundary.exists_path?_of_internal hstanding
        simp only [hpath, Option.getD_some]
        exact decisionAtStrict_eq table c verb path

theorem runStrict_eq (b : Boundary) (rows : List Row) (calls : List CallFact) :
    runStrict b rows calls = .ok (Matching.run b rows calls) := by
  rw [runStrict, mapM_eq_ok fun c _ => decisionStrict_eq b (fresh rows) c]
  rfl

end Decision

theorem analyzeStrict_eq (b : Boundary) (s : Snapshot) :
    analyzeStrict b s = (analyze b s).mapError Lapse.overlong := by
  rw [analyzeStrict, mapM_eq_ok fun repo _ => buildStrict_eq repo _]
  show (runStrict _ _ _).bind _ = _
  rw [runStrict_eq, analyze]
  cases Dependency.conflicts s.declarations <;> rfl

/-! ## Overlong versions -/

/-- An analysis stops just if a repository declares a package twice, once with an overlong version,
or else if the versions with which a package counts differ and one of them is overlong; what it
reports is how long such a version is. In all other cases it ends with its findings, whatever the
facts and the calls are: no step of it falls back on a default. -/
theorem analyze_stops (b : Boundary) (s : Snapshot) :
    (∃ chosen, IsChoice s.declarations chosen) ∧
    ∀ chosen, IsChoice s.declarations chosen →
      ((∃ stop, analyze b s = .error stop) ↔ ReadsOverlong s.declarations chosen) ∧
      (∀ stop, analyze b s = .error stop →
        ∃ d ∈ s.declarations, Overruns (versionText d.version) stop) ∧
      (¬ ReadsOverlong s.declarations chosen →
        analyze b s = .ok ((Run.of b s).findings (report s.declarations chosen))) ∧
      analyzeStrict b s = (analyze b s).mapError Lapse.overlong := by
  refine ⟨exists_isChoice s.declarations, fun chosen hchoice => ?_⟩
  obtain ⟨hlong, stop, hstop, hoverruns⟩ | ⟨hshort, hreport⟩ := conflicts_cases hchoice
  · have hanalyze : analyze b s = .error stop := analyze_eq_error_iff.mpr hstop
    refine ⟨iff_of_true ⟨stop, hanalyze⟩ hlong, fun stop' hstop' => ?_,
      fun hshort => absurd hlong hshort, analyzeStrict_eq b s⟩
    rw [hanalyze] at hstop'
    cases hstop'
    exact hoverruns
  · have hanalyze : analyze b s = .ok ((Run.of b s).findings (report s.declarations chosen)) :=
      analyze_eq_ok_iff.mpr ⟨_, hreport, rfl⟩
    refine ⟨iff_of_false ?_ hshort, ?_, fun _ => hanalyze, analyzeStrict_eq b s⟩
    · rintro ⟨stop, hstop⟩
      rw [hanalyze] at hstop
      cases hstop
    · intro stop hstop
      rw [hanalyze] at hstop
      cases hstop

/-- An overlong version does no harm where it is not read, and a cycle of mounts none at all. -/
theorem analyze_stops_paired :
    let declare (package version repo : String) : Declaration := { package, version, repo }
    let long := String.ofList (List.replicate 4301 '1')
    let mount (parent child : String) : Fact := .mount { parent, child, repo := "shop" }
    let facts := [mount "a" "b", mount "b" "a"]
    let paired := [declare "ui" "1" "web", declare "ui" long "web"]
    let graded := [declare "ui" "1" "web", declare "ui" long "shop"]
    let single := [declare "ui" "1" "web", declare "db" long "web"]
    (∃ stop, analyze {} { facts, declarations := paired } = .error stop) ∧
      (∃ stop, analyze {} { facts, declarations := graded } = .error stop) ∧
      ∃ found, analyze {} { facts, declarations := single } = .ok found := by
  intro declare long mount facts paired graded single
  have hone : IsReadable (versionText "1") := by decide +kernel
  have hlong : ¬ IsReadable (versionText long) := not_isReadable_replicate (by decide)
  clear_value long
  refine ⟨?_, ?_, ?_⟩
  · obtain ⟨⟨chosen, hchoice⟩, hstops⟩ := analyze_stops {} { facts, declarations := paired }
    have hpair : HasOverlongPair paired :=
      ⟨"ui", "web", by simp [declared, paired, declare], declare "ui" long "web",
        by simp [declared, paired, declare], hlong⟩
    exact (hstops chosen hchoice).1.mpr (.inl hpair)
  · obtain ⟨⟨chosen, hchoice⟩, hstops⟩ := analyze_stops {} { facts, declarations := graded }
    have hpair : ¬ HasOverlongPair graded :=
      pairwise_comparable_iff.mp (by simp [graded, declare, Comparable])
    have hweb : chosen "ui" "web" = declare "ui" "1" "web" := by
      have hmem := (hchoice (declare "ui" "1" "web") (by simp [graded])).mem
      simpa [declared, graded, declare] using hmem
    have hshop : chosen "ui" "shop" = declare "ui" long "shop" := by
      have hmem := (hchoice (declare "ui" long "shop") (by simp [graded])).mem
      simpa [declared, graded, declare] using hmem
    have hentries : entriesOf graded chosen "ui" =
        [entryOf (declare "ui" "1" "web"), entryOf (declare "ui" long "shop")] := by
      rw [← hweb, ← hshop]
      rfl
    have hdiffer : Differ (entriesOf graded chosen "ui") := by
      rw [hentries]
      refine ⟨_, List.mem_cons_self, _, List.mem_cons_of_mem _ List.mem_cons_self, fun heq => ?_⟩
      rw [version_entryOf, version_entryOf] at heq
      exact hlong (heq ▸ hone)
    have hgrade : HasOverlongGrade graded chosen := by
      refine ⟨"ui", hdiffer, entryOf (declare "ui" long "shop"), ?_, ?_⟩
      · rw [hentries]
        exact List.mem_cons_of_mem _ List.mem_cons_self
      · rwa [version_entryOf]
    exact (hstops chosen hchoice).1.mpr (.inr ⟨hpair, hgrade⟩)
  · obtain ⟨⟨chosen, hchoice⟩, hstops⟩ := analyze_stops {} { facts, declarations := single }
    have hpair : ¬ HasOverlongPair single :=
      pairwise_comparable_iff.mp (by simp [single, declare, Comparable])
    have hgrade : ¬ HasOverlongGrade single chosen := by
      rintro ⟨package, hdiffer, -⟩
      obtain ⟨d, hd, e, he, -, -, hne⟩ := exists_repos_of_differ hdiffer
      have hrepo : ∀ d ∈ single, d.repo = "web" := by simp [single, declare]
      exact hne ((hrepo d hd).trans (hrepo e he).symm)
    have hfound := (hstops chosen hchoice).2.2.1 fun h => h.elim hpair fun h => hgrade h.2
    exact ⟨_, hfound⟩

end ServiceContracts.Analysis
