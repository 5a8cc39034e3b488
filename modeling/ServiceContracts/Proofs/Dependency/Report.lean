import ServiceContracts.Proofs.Dependency.Chosen
import ServiceContracts.Proofs.Grouping
import ServiceContracts.Proofs.Traversal

/-!
# The conflicts of all declarations

The declarations are grouped by package and, within a package, by repository; the entry of a
repository is the one of its chosen declaration. A package is in conflict just if the version texts
of its entries are not all equal.

* `takesIn_enter`, `takesIn_record` : what one declaration does to the entries and to the groups;
* `exists_groups` : what all of them make, if no two are compared of which one cannot be read;
* `severity_eq_ok`, `conflict?_eq_ok` : what is reported of one group;
* `report` : the conflicts, given the choice of declarations;
* `conflicts_eq_report` : they are found, and no other ones.
-/

namespace ServiceContracts.Dependency
open Number

/-! ## Entries and groups -/

/-- The entry of some declarations of one repository. -/
def Counts (own : List Declaration) (entry : RepoVersion) : Prop :=
  ∃ d, IsChosen own d ∧ entry = entryOf d

/-- The entries of some declarations of one package. -/
abbrev IsEntries : List Declaration → List RepoVersion → Prop :=
  IsGrouping Declaration.repo RepoVersion.repo Counts

/-- The groups of some declarations. -/
abbrev IsGroups : List Declaration → List Group → Prop :=
  IsGrouping Declaration.package Group.package fun own g => IsEntries own g.entries

/-- Both declarations can be read if they are compared at all, being those of one package in one
repository. -/
def Comparable (d e : Declaration) : Prop :=
  d.package = e.package → d.repo = e.repo →
    IsReadable (versionText d.version) ∧ IsReadable (versionText e.version)

section Groups
variable {ds : List Declaration} {d : Declaration} {entries : List RepoVersion} {gs : List Group}

@[simp] theorem version_entryOf (d : Declaration) :
    (entryOf d).version = versionText d.version := by
  rw [entryOf]

@[simp] theorem repo_entryOf (d : Declaration) : (entryOf d).repo = d.repo := rfl

/-- The entry that is left of two: the one so far, unless the new one ranks higher. -/
def newer (entry current : RepoVersion) : RepoVersion :=
  if rank current.version < rank entry.version then entry else current

/-- What entering a declaration does: its entry comes last, or meets the one of its repository. -/
abbrev Entered (d : Declaration) : List RepoVersion → List RepoVersion → Prop :=
  TakesIn RepoVersion.repo d.repo (· = entryOf d) fun e e' => e' = newer (entryOf d) e

theorem takesIn_enter (h : ∀ e ∈ entries, e.repo = d.repo →
      IsReadable e.version ∧ IsReadable (versionText d.version)) :
    ∃ entries', enter (entryOf d) entries = .ok entries' ∧ Entered d entries entries' := by
  induction entries with
  | nil => exact ⟨[entryOf d], rfl, .last rfl⟩
  | cons e entries ih =>
    obtain ⟨he, hentries⟩ := List.forall_mem_cons.mp h
    by_cases hrepo : e.repo = d.repo
    · obtain ⟨hcurrent, hentry⟩ := he hrepo
      have hnewer : Version.isNewer (entryOf d).version e.version =
          .ok (decide (rank e.version < rank (entryOf d).version)) := by
        rw [version_entryOf]
        exact isNewer_eq_ok hentry hcurrent
      refine ⟨newer (entryOf d) e :: entries, ?_, .here hrepo rfl⟩
      rw [enter, repo_entryOf, if_pos hrepo, hnewer]
      simp [newer, bind, Except.bind]
    · obtain ⟨entries', henter, htakes⟩ := ih hentries
      refine ⟨e :: entries', ?_, .there hrepo htakes⟩
      rw [enter, repo_entryOf, if_neg hrepo, henter]
      rfl

theorem takesIn_record (hgs : ∀ g ∈ gs, g.package = d.package →
      ∃ entries, enter (entryOf d) g.entries = .ok entries ∧ Entered d g.entries entries) :
    ∃ gs', Group.record d gs = .ok gs' ∧
      TakesIn Group.package d.package (· = { package := d.package, entries := [entryOf d] })
        (fun g g' => g'.package = g.package ∧ Entered d g.entries g'.entries) gs gs' := by
  induction gs with
  | nil => exact ⟨[_], rfl, .last rfl⟩
  | cons g gs ih =>
    obtain ⟨hg, hgs⟩ := List.forall_mem_cons.mp hgs
    by_cases hpackage : g.package = d.package
    · obtain ⟨entries, henter, htakes⟩ := hg hpackage
      refine ⟨{ g with entries } :: gs, ?_, .here hpackage ⟨rfl, htakes⟩⟩
      rw [Group.record, if_pos hpackage, henter]
      rfl
    · obtain ⟨gs', hrecord, htakes⟩ := ih hgs
      refine ⟨g :: gs', ?_, .there hpackage htakes⟩
      rw [Group.record, if_neg hpackage, hrecord]
      rfl

/-- An entry is that of one of its declarations. -/
theorem IsEntries.exists_of_mem (h : IsEntries ds entries) {e : RepoVersion} (he : e ∈ entries) :
    ∃ d ∈ ds, e = entryOf d := by
  obtain ⟨d, hchosen, rfl⟩ := h.holds e he
  exact ⟨d, (List.mem_filter.mp hchosen.mem).1, rfl⟩

theorem IsEntries.concat {entries' : List RepoVersion} (h : IsEntries ds entries)
    (htakes : Entered d entries entries') : IsEntries (ds ++ [d]) entries' := by
  refine IsGrouping.concat h htakes ?_ ?_
  · rintro _ rfl
    exact ⟨rfl, d, isChosen_singleton d, rfl⟩
  · intro e e' hrepo hnewer
    rw [hnewer]
    constructor
    · rw [newer]
      split
      · rfl
      · exact hrepo
    · rintro own ⟨d', hchosen, rfl⟩
      refine ⟨_, hchosen.concat d, ?_⟩
      rw [newer, version_entryOf, version_entryOf]
      split <;> rfl

theorem IsGroups.record (h : IsGroups ds gs) (hd : ∀ e ∈ ds, Comparable e d) :
    ∃ gs', Group.record d gs = .ok gs' ∧ IsGroups (ds ++ [d]) gs' := by
  have hmet : ∀ g ∈ gs, g.package = d.package → ∀ e ∈ g.entries, e.repo = d.repo →
      IsReadable e.version ∧ IsReadable (versionText d.version) := by
    intro g hg hpackage e he hrepo
    obtain ⟨d', hd', rfl⟩ := IsEntries.exists_of_mem (h.holds g hg) he
    obtain ⟨hmem, hsame⟩ := List.mem_filter.mp hd'
    rw [version_entryOf]
    exact hd d' hmem ((of_decide_eq_true hsame).trans hpackage) hrepo
  obtain ⟨gs', hrecord, htakes⟩ := takesIn_record fun g hg hpackage =>
    takesIn_enter (hmet g hg hpackage)
  refine ⟨gs', hrecord, h.concat htakes ?_ ?_⟩
  · rintro _ rfl
    exact ⟨rfl, IsEntries.concat .nil (.last rfl)⟩
  · rintro g g' hpackage ⟨hsame, hentered⟩
    exact ⟨hsame.trans hpackage, fun own hown => IsEntries.concat hown hentered⟩

theorem exists_groups (h : ds.Pairwise Comparable) : ∃ gs, groups ds = .ok gs ∧ IsGroups ds gs := by
  induction ds using List.reverseRecOn with
  | nil => exact ⟨[], rfl, .nil⟩
  | append_singleton ds d ih =>
    obtain ⟨hfront, -, hlast⟩ := List.pairwise_append.mp h
    obtain ⟨gs, hgroups, hds⟩ := ih hfront
    obtain ⟨gs', hrecord, hds'⟩ := hds.record fun e he => hlast e he d (List.mem_singleton_self d)
    refine ⟨gs', ?_, hds'⟩
    rw [groups] at hgroups ⊢
    rw [List.foldlM_append, hgroups]
    simp [bind, Except.bind, hrecord, pure, Except.pure]

end Groups

/-! ## Grades -/

/-- Two of the entries have different version texts. -/
def Differ (entries : List RepoVersion) : Prop :=
  ∃ e ∈ entries, ∃ e' ∈ entries, e.version ≠ e'.version

instance : DecidablePred Differ := fun entries =>
  inferInstanceAs (Decidable (∃ e ∈ entries, ∃ e' ∈ entries, e.version ≠ e'.version))

/-- The grade of some version texts. -/
def classify (texts : List String) : Severity := spread (texts.filterMap version?)

/-- The conflict of some entries of a package. -/
def conflictOf (package : String) (entries : List RepoVersion) : Conflict :=
  let grade := classify (distinct (entries.map RepoVersion.version))
  { package, versions := entries, severity := grade
    description := describe package entries grade }

section Grades
variable {entries : List RepoVersion}

theorem severity_eq_ok {texts : List String} (h : ∀ text ∈ texts, IsReadable text) :
    severity texts = .ok (classify texts) := by
  rw [severity, mapM_eq_ok fun text htext => read_eq_ok (h text htext)]
  simp [classify, bind, Except.bind, List.filterMap_map]

theorem length_distinct_lt_two_iff {β : Type} [DecidableEq β] {bs : List β} :
    (distinct bs).length < 2 ↔ ∀ b ∈ bs, ∀ b' ∈ bs, b = b' := by
  have hnodup := nodup_distinct bs
  have hmem : ∀ b, b ∈ distinct bs ↔ b ∈ bs := fun b => mem_distinct
  simp only [← hmem]
  clear hmem
  generalize distinct bs = cs at *
  rcases cs with _ | ⟨b, _ | ⟨b', cs⟩⟩
  · simp
  · simp
  · refine iff_of_false (by simp) fun h => ?_
    have heq := h b (by simp) b' (by simp)
    simp [heq] at hnodup

theorem differ_iff : Differ entries ↔
    ¬ (distinct (entries.map RepoVersion.version)).length < 2 := by
  rw [length_distinct_lt_two_iff]
  simp [Differ]

theorem conflict?_eq_ok {g : Group} (h : Differ g.entries → ∀ e ∈ g.entries, IsReadable e.version) :
    g.conflict? = .ok (if Differ g.entries then some (conflictOf g.package g.entries) else none) := by
  rw [Group.conflict?]
  by_cases hdiffer : Differ g.entries
  · have hread : ∀ text ∈ distinct (g.entries.map RepoVersion.version), IsReadable text := by
      intro text htext
      obtain ⟨e, he, rfl⟩ := List.mem_map.mp (mem_distinct.mp htext)
      exact h hdiffer e he
    simp only [if_neg (differ_iff.mp hdiffer), if_pos hdiffer, severity_eq_ok hread]
    rfl
  · rw [if_pos (not_not.mp (mt differ_iff.mpr hdiffer)), if_neg hdiffer]

end Grades

/-! ## The report -/

/-- The declarations of a package in a repository. -/
def declared (ds : List Declaration) (package repo : String) : List Declaration :=
  (ds.filter fun d => d.package = package).filter fun d => d.repo = repo

/-- The repositories that declare a package, in order of their first declaration of it. -/
def declarers (ds : List Declaration) (package : String) : List String :=
  distinct ((ds.filter fun d => d.package = package).map Declaration.repo)

/-- For every package and every repository that declares it, the declaration that counts. -/
def IsChoice (ds : List Declaration) (chosen : String → String → Declaration) : Prop :=
  ∀ d ∈ ds, IsChosen (declared ds d.package d.repo) (chosen d.package d.repo)

/-- The entries of a package: one for each repository that declares it. -/
def entriesOf (ds : List Declaration) (chosen : String → String → Declaration)
    (package : String) : List RepoVersion :=
  (declarers ds package).map fun repo => entryOf (chosen package repo)

/-- The conflicts: the packages whose entries differ, in order of their first declaration. -/
def report (ds : List Declaration) (chosen : String → String → Declaration) : List Conflict :=
  ((distinct (ds.map Declaration.package)).filter fun package =>
    Differ (entriesOf ds chosen package)).map fun package =>
      conflictOf package (entriesOf ds chosen package)

section Report
variable {ds : List Declaration} {chosen : String → String → Declaration} {package repo : String}

theorem mem_declared {d : Declaration} :
    d ∈ declared ds package repo ↔ d ∈ ds ∧ d.package = package ∧ d.repo = repo := by
  simp [declared, and_assoc, and_comm]

theorem mem_declarers :
    repo ∈ declarers ds package ↔ ∃ d ∈ ds, d.package = package ∧ d.repo = repo := by
  simp [declarers, mem_distinct, and_assoc]

theorem IsChoice.isChosen (h : IsChoice ds chosen) (hrepo : repo ∈ declarers ds package) :
    IsChosen (declared ds package repo) (chosen package repo) := by
  obtain ⟨d, hd, rfl, rfl⟩ := mem_declarers.mp hrepo
  exact h d hd

theorem exists_isChoice (ds : List Declaration) : ∃ chosen, IsChoice ds chosen := by
  have hchosen : ∀ package repo, ∃ d, declared ds package repo ≠ [] →
      IsChosen (declared ds package repo) d := by
    intro package repo
    by_cases hne : declared ds package repo = []
    · exact ⟨{ package, version := "", repo }, fun h => absurd hne h⟩
    · obtain ⟨d, hd⟩ := exists_isChosen hne
      exact ⟨d, fun _ => hd⟩
  choose chosen hchosen using hchosen
  exact ⟨chosen, fun d hd =>
    hchosen _ _ (List.ne_nil_of_mem (mem_declared.mpr ⟨hd, rfl, rfl⟩))⟩

theorem entries_eq_entriesOf (hchoice : IsChoice ds chosen) {entries : List RepoVersion}
    (h : IsEntries (ds.filter fun d => d.package = package) entries) :
    entries = entriesOf ds chosen package := by
  refine h.eq_map _ fun e he hown => ?_
  obtain ⟨d, hchosen, rfl⟩ := hown
  have hrepo : d.repo ∈ declarers ds package := by
    have := List.mem_map_of_mem (f := RepoVersion.repo) he
    rwa [h.keys] at this
  exact congrArg entryOf (hchosen.unique (hchoice.isChosen hrepo))

theorem groups_eq_map (hchoice : IsChoice ds chosen) {gs : List Group} (h : IsGroups ds gs) :
    gs = (distinct (ds.map Declaration.package)).map fun package =>
      { package, entries := entriesOf ds chosen package } := by
  refine h.eq_map _ fun g _ hown => ?_
  rw [← entries_eq_entriesOf hchoice hown]

theorem conflictsOf_eq_ok {gs : List Group}
    (h : ∀ g ∈ gs, Differ g.entries → ∀ e ∈ g.entries, IsReadable e.version) :
    conflictsOf gs = .ok ((gs.filter fun g => Differ g.entries).map fun g =>
      conflictOf g.package g.entries) := by
  rw [conflictsOf, mapM_eq_ok fun g hg => conflict?_eq_ok (h g hg)]
  show Except.ok (List.filterMap id _) = _
  rw [List.filterMap_map, ← List.filterMap_eq_map, List.filterMap_filter]
  simp

theorem exists_of_mem_report {c : Conflict} (h : c ∈ report ds chosen) :
    ∃ package, Differ (entriesOf ds chosen package) ∧
      c = conflictOf package (entriesOf ds chosen package) := by
  obtain ⟨package, hpackage, rfl⟩ := List.mem_map.mp h
  exact ⟨package, of_decide_eq_true (List.mem_filter.mp hpackage).2, rfl⟩

theorem nodup_report (ds : List Declaration) (chosen : String → String → Declaration) :
    ((report ds chosen).map Conflict.package).Nodup := by
  have hpackage : ∀ package, (conflictOf package (entriesOf ds chosen package)).package = package :=
    fun _ => rfl
  rw [report, List.map_map]
  simp only [Function.comp_def, hpackage, List.map_id']
  exact (nodup_distinct _).filter _

theorem repo_chosen (hchoice : IsChoice ds chosen) (hrepo : repo ∈ declarers ds package) :
    (chosen package repo).repo = repo :=
  (mem_declared.mp (hchoice.isChosen hrepo).mem).2.2

theorem map_repo_entriesOf (hchoice : IsChoice ds chosen) (package : String) :
    (entriesOf ds chosen package).map RepoVersion.repo = declarers ds package := by
  rw [entriesOf, List.map_map]
  exact (List.map_congr_left fun repo hrepo => repo_chosen hchoice hrepo).trans (List.map_id _)

theorem exists_version_eq (hchoice : IsChoice ds chosen) {e : RepoVersion}
    (he : e ∈ entriesOf ds chosen package) : ∃ d ∈ ds, e.version = versionText d.version := by
  obtain ⟨repo, hrepo, rfl⟩ := List.mem_map.mp he
  exact ⟨_, (mem_declared.mp (hchoice.isChosen hrepo).mem).1, version_entryOf _⟩

theorem isReadable_entriesOf (hread : ∀ d ∈ ds, IsReadable (versionText d.version))
    (hchoice : IsChoice ds chosen) :
    ∀ e ∈ entriesOf ds chosen package, IsReadable e.version := by
  intro e he
  obtain ⟨d, hd, hversion⟩ := exists_version_eq hchoice he
  rw [hversion]
  exact hread d hd

/-- Versions are read only where they are compared: within a repository, and in a package whose
entries differ. -/
theorem conflicts_eq_report_of_comparable (hcomparable : ds.Pairwise Comparable)
    (hread : ∀ package, Differ (entriesOf ds chosen package) →
      ∀ e ∈ entriesOf ds chosen package, IsReadable e.version)
    (hchoice : IsChoice ds chosen) : conflicts ds = .ok (report ds chosen) := by
  obtain ⟨gs, hgroups, hgs⟩ := exists_groups hcomparable
  have hentries : ∀ g ∈ gs, Differ g.entries → ∀ e ∈ g.entries, IsReadable e.version := by
    intro g hg
    rw [groups_eq_map hchoice hgs] at hg
    obtain ⟨package, -, rfl⟩ := List.mem_map.mp hg
    exact hread package
  rw [conflicts, hgroups]
  show conflictsOf gs = _
  rw [conflictsOf_eq_ok hentries, groups_eq_map hchoice hgs, List.filter_map, List.map_map]
  rfl

theorem conflicts_eq_ok (hread : ∀ d ∈ ds, IsReadable (versionText d.version))
    (hchoice : IsChoice ds chosen) : conflicts ds = .ok (report ds chosen) := by
  have hcomparable : ds.Pairwise Comparable :=
    List.pairwise_of_forall_mem_list fun d hd e he _ _ => ⟨hread d hd, hread e he⟩
  exact conflicts_eq_report_of_comparable hcomparable
    (fun _ _ => isReadable_entriesOf hread hchoice) hchoice

/-- One repository has one entry, so entries that differ are those of several repositories. -/
theorem exists_repos_of_differ (h : Differ (entriesOf ds chosen package)) :
    ∃ d ∈ ds, ∃ e ∈ ds, d.package = package ∧ e.package = package ∧ d.repo ≠ e.repo := by
  obtain ⟨entry, hentry, other, hother, hne⟩ := h
  obtain ⟨repo, hrepo, rfl⟩ := List.mem_map.mp hentry
  obtain ⟨repo', hrepo', rfl⟩ := List.mem_map.mp hother
  obtain ⟨d, hd, hdpackage, rfl⟩ := mem_declarers.mp hrepo
  obtain ⟨e, he, hepackage, rfl⟩ := mem_declarers.mp hrepo'
  exact ⟨d, hd, e, he, hdpackage, hepackage, fun hsame => hne (by rw [hsame])⟩

end Report

/-- Of every package each repository counts with the first declaration of its highest version, or
with its first one if it spells no version. The conflicts are the packages whose entries differ:
none twice, and none that a single repository declares. -/
theorem conflicts_eq_report (ds : List Declaration)
    (hread : ∀ d ∈ ds, IsReadable (versionText d.version)) :
    (∃ chosen, IsChoice ds chosen) ∧
    ∀ chosen, IsChoice ds chosen →
      conflicts ds = .ok (report ds chosen) ∧
      ((report ds chosen).map Conflict.package).Nodup ∧
      ∀ c ∈ report ds chosen,
        c.versions.map RepoVersion.repo = declarers ds c.package ∧
        severity (distinct (c.versions.map RepoVersion.version)) = .ok c.severity ∧
        ∃ d ∈ ds, ∃ e ∈ ds, d.package = c.package ∧ e.package = c.package ∧ d.repo ≠ e.repo := by
  refine ⟨exists_isChoice ds, fun chosen hchoice =>
    ⟨conflicts_eq_ok hread hchoice, nodup_report ds chosen, fun c hc => ?_⟩⟩
  obtain ⟨package, hdiffer, rfl⟩ := exists_of_mem_report hc
  refine ⟨map_repo_entriesOf hchoice package, severity_eq_ok fun text htext => ?_,
    exists_repos_of_differ hdiffer⟩
  obtain ⟨e, he, rfl⟩ := List.mem_map.mp (mem_distinct.mp htext)
  exact isReadable_entriesOf hread hchoice e he

/-- A tag gives way to a version and a version to a higher one, but not to its equal; what a single
repository declares is no conflict. -/
theorem conflicts_eq_report_replaced :
    let declare (package version repo : String) : Declaration := { package, version, repo }
    let ds := [declare "ui" "latest" "web", declare "db" "1" "shop", declare "ui" "~1.2" "shop",
      declare "ui" "^1.10.0" "web", declare "db" "2" "shop", declare "ui" "1.10" "web"]
    ∃ chosen, IsChoice ds chosen ∧ conflicts ds = .ok (report ds chosen) ∧
      (report ds chosen).map (fun c => (c.package, c.severity)) = [("ui", .warning)] ∧
      (report ds chosen).flatMap (fun c => c.versions.map fun e => (e.repo, e.version)) =
        [("web", "1.10.0"), ("shop", "1.2")] := by
  intro declare ds
  have hread : ∀ d ∈ ds, IsReadable (versionText d.version) := by decide +kernel
  obtain ⟨⟨chosen, hchoice⟩, hconflicts⟩ := conflicts_eq_report ds hread
  have hreport := (hconflicts chosen hchoice).1
  have hfound : ((conflicts ds).toOption.map fun found =>
      (found.map (fun c => (c.package, c.severity)),
        found.flatMap fun c => c.versions.map fun e => (e.repo, e.version))) =
      some ([("ui", .warning)], [("web", "1.10.0"), ("shop", "1.2")]) := by decide +kernel
  rw [hreport] at hfound
  exact ⟨chosen, hchoice, hreport, Prod.mk.inj (Option.some.inj hfound)⟩

end ServiceContracts.Dependency
