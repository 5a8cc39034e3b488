import Mathlib.Data.List.Pairwise
import ServiceContracts.Proofs.Dependency.Report

/-!
# Overlong versions

A version text that cannot be read stops the search for conflicts, but only if it is read. That
happens where a repository declares the package twice, since the two declarations are compared, and
where the entries of a package differ, since the difference is graded.

* `Overruns` : a text is overlong, and by which component;
* `groups_eq_error` : two declarations are compared of which one is overlong;
* `conflictsOf_eq_error` : a difference is graded that has an overlong side;
* `HasOverlongPair`, `HasOverlongGrade`, `ReadsOverlong` : the same, said of the declarations;
* `conflicts_cases` : the search stops in these two cases and in no other one.
-/

namespace ServiceContracts.Dependency
open Number

/-! ## Overlong texts -/

/-- The text spells a version one of whose components has too many digits, namely that many. -/
def Overruns (text : String) (stop : Overlong) : Prop :=
  ∃ digits ∈ Version.digits? text.toList, digitLimit < stop.digits ∧
    stop.digits ∈ [digits.1.length, digits.2.1.length, digits.2.2.length]

section Read
variable {text other : String} {stop : Overlong}

theorem readNat_eq_error {digits : List Char} (h : digitLimit < digits.length) :
    readNat digits = .error { digits := digits.length } :=
  if_pos h

theorem read_of_digits? {major minor patch : List Char}
    (h : Version.digits? text.toList = some (major, minor, patch)) :
    Version.read text = (readNat major).bind fun major => (readNat minor).bind fun minor =>
      (readNat patch).bind fun patch => .ok (some { major, minor, patch }) := by
  rw [Version.read, Version.readChars, h]
  rfl

/-- The first component that is too long is the one reported. -/
theorem read_eq_error (h : ¬ IsReadable text) :
    ∃ stop, Version.read text = .error stop ∧ Overruns text stop := by
  simp only [IsReadable, not_forall] at h
  obtain ⟨⟨major, minor, patch⟩, hdigits, hlong⟩ := h
  rw [read_of_digits? hdigits]
  by_cases hmajor : digitLimit < major.length
  · rw [readNat_eq_error hmajor]
    exact ⟨_, rfl, _, hdigits, hmajor, by simp⟩
  rw [readNat_eq_ok (not_lt.mp hmajor)]
  by_cases hminor : digitLimit < minor.length
  · rw [readNat_eq_error hminor]
    exact ⟨_, rfl, _, hdigits, hminor, by simp⟩
  have hpatch : digitLimit < patch.length := by
    by_contra hpatch
    exact hlong ⟨not_lt.mp hmajor, not_lt.mp hminor, not_lt.mp hpatch⟩
  rw [readNat_eq_ok (not_lt.mp hminor), readNat_eq_error hpatch]
  exact ⟨_, rfl, _, hdigits, hpatch, by simp⟩

theorem overruns_of_read (h : Version.read text = .error stop) : Overruns text stop := by
  have hread : ¬ IsReadable text := by
    intro hread
    rw [read_eq_ok hread] at h
    cases h
  obtain ⟨_, hstop, hoverruns⟩ := read_eq_error hread
  rw [h] at hstop
  cases hstop
  exact hoverruns

theorem isNewer_eq_error (h : ¬ (IsReadable text ∧ IsReadable other)) :
    ∃ stop, Version.isNewer text other = .error stop ∧
      (Overruns text stop ∨ Overruns other stop) := by
  by_cases htext : IsReadable text
  · obtain ⟨stop, hread, hoverruns⟩ := read_eq_error fun hother => h ⟨htext, hother⟩
    refine ⟨stop, ?_, .inr hoverruns⟩
    rw [Version.isNewer, read_eq_ok htext, hread]
    rfl
  · obtain ⟨stop, hread, hoverruns⟩ := read_eq_error htext
    refine ⟨stop, ?_, .inl hoverruns⟩
    rw [Version.isNewer, hread]
    rfl

end Read

/-! ## Declarations that are compared -/

section Groups
variable {ds : List Declaration} {d : Declaration} {entries : List RepoVersion} {gs : List Group}
  {stop : Overlong}

theorem enter_eq_error (hnodup : (entries.map RepoVersion.repo).Nodup) {e : RepoVersion}
    (he : e ∈ entries) (hrepo : e.repo = d.repo)
    (h : Version.isNewer (versionText d.version) e.version = .error stop) :
    enter (entryOf d) entries = .error stop := by
  induction entries with
  | nil => cases he
  | cons current entries ih =>
    obtain ⟨hfirst, hnodup⟩ := List.nodup_cons.mp hnodup
    obtain rfl | he := List.mem_cons.mp he
    · rw [enter, repo_entryOf, if_pos hrepo, version_entryOf, h]
      rfl
    · have hother : current.repo ≠ d.repo := fun hsame =>
        hfirst (List.mem_map.mpr ⟨e, he, hrepo.trans hsame.symm⟩)
      rw [enter, repo_entryOf, if_neg hother, ih hnodup he]
      rfl

theorem record_eq_error (hnodup : (gs.map Group.package).Nodup) {g : Group} (hg : g ∈ gs)
    (hpackage : g.package = d.package) (h : enter (entryOf d) g.entries = .error stop) :
    Group.record d gs = .error stop := by
  induction gs with
  | nil => cases hg
  | cons first gs ih =>
    obtain ⟨hfirst, hnodup⟩ := List.nodup_cons.mp hnodup
    obtain rfl | hg := List.mem_cons.mp hg
    · rw [Group.record, if_pos hpackage, h]
      rfl
    · have hother : first.package ≠ d.package := fun hsame =>
        hfirst (List.mem_map.mpr ⟨g, hg, hpackage.trans hsame.symm⟩)
      rw [Group.record, if_neg hother, ih hnodup hg]
      rfl

theorem Comparable.symm {d e : Declaration} (h : Comparable d e) : Comparable e d :=
  fun hpackage hrepo => (h hpackage.symm hrepo.symm).symm

instance : Std.Symm Comparable := ⟨fun _ _ => Comparable.symm⟩

/-- A declaration that cannot be compared with one in front of it cannot be compared with the entry
of its repository either: the other declarations there can be read. -/
theorem IsGroups.record_eq_error (h : IsGroups ds gs) (hds : ds.Pairwise Comparable)
    {e : Declaration} (he : e ∈ ds) (hd : ¬ Comparable e d) :
    ∃ stop, Group.record d gs = .error stop ∧
      ∃ d' ∈ ds ++ [d], Overruns (versionText d'.version) stop := by
  simp only [Comparable, Classical.not_imp] at hd
  obtain ⟨hpackage, hrepo, hread⟩ := hd
  obtain ⟨g, hg, hgpackage⟩ : ∃ g ∈ gs, g.package = d.package := by
    rw [← hpackage]
    exact List.mem_map.mp (h.mem_keys.mpr (List.mem_map_of_mem he))
  have hentries := h.holds g hg
  have hown : e ∈ ds.filter fun d' => d'.package = g.package :=
    List.mem_filter.mpr ⟨he, decide_eq_true (hpackage.trans hgpackage.symm)⟩
  obtain ⟨entry, hentry, hentryRepo⟩ : ∃ entry ∈ g.entries, entry.repo = d.repo := by
    rw [← hrepo]
    exact List.mem_map.mp (hentries.mem_keys.mpr (List.mem_map_of_mem hown))
  obtain ⟨c, hc, rfl⟩ := hentries.exists_of_mem hentry
  obtain ⟨hcds, hcpackage⟩ := List.mem_filter.mp hc
  have hunreadable : ¬ (IsReadable (versionText d.version) ∧ IsReadable (versionText c.version)) := by
    rintro ⟨hdread, hcread⟩
    refine hread ⟨?_, hdread⟩
    by_cases hsame : e = c
    · rwa [hsame]
    · have hcomparable := hds.forall he hcds hsame
      exact (hcomparable (by rw [hpackage, of_decide_eq_true hcpackage, hgpackage])
        (hrepo.trans hentryRepo.symm)).1
  obtain ⟨stop, hnewer, hoverruns⟩ := isNewer_eq_error hunreadable
  rw [← version_entryOf c] at hnewer
  have henter := enter_eq_error hentries.nodup hentry hentryRepo hnewer
  refine ⟨stop, Dependency.record_eq_error h.nodup hg hgpackage henter, ?_⟩
  rcases hoverruns with hoverruns | hoverruns
  · exact ⟨d, by simp, hoverruns⟩
  · exact ⟨c, by simp [hcds], hoverruns⟩

theorem groups_concat (ds : List Declaration) (d : Declaration) :
    groups (ds ++ [d]) = (groups ds).bind (Group.record d) := by
  rw [groups, groups, List.foldlM_append]
  show Except.bind _ _ = _
  congr
  funext gs
  simp

theorem groups_eq_error (h : ¬ ds.Pairwise Comparable) :
    ∃ stop, groups ds = .error stop ∧ ∃ d ∈ ds, Overruns (versionText d.version) stop := by
  induction ds using List.reverseRecOn with
  | nil => exact absurd .nil h
  | append_singleton ds d ih =>
    rw [groups_concat]
    by_cases hds : ds.Pairwise Comparable
    · obtain ⟨gs, hgroups, hgs⟩ := exists_groups hds
      obtain ⟨e, he, hnot⟩ : ∃ e ∈ ds, ¬ Comparable e d := by
        by_contra hall
        push Not at hall
        exact h (List.pairwise_append.mpr ⟨hds, by simp, by simpa using hall⟩)
      rw [hgroups]
      exact hgs.record_eq_error hds he hnot
    · obtain ⟨stop, hgroups, d', hd', hoverruns⟩ := ih hds
      exact ⟨stop, by rw [hgroups]; rfl, d', by simp [hd'], hoverruns⟩

end Groups

/-! ## Differences that are graded -/

section Grades
variable {α β ε : Type} {entries : List RepoVersion} {stop : Overlong}

/-- The first failure among several is the one of all. -/
theorem exists_mapM_eq_error {f : α → Except ε β} {as : List α} {a : α} {e : ε} (ha : a ∈ as)
    (h : f a = .error e) : ∃ b ∈ as, ∃ e, f b = .error e ∧ as.mapM f = .error e := by
  cases hall : as.mapM f with
  | error e' =>
    obtain ⟨before, b, after, rfl, -, hb⟩ := mapM_eq_error_iff.mp hall
    exact ⟨b, List.mem_append_right _ List.mem_cons_self, e', hb, rfl⟩
  | ok bs =>
    have hmem : f a ∈ as.map f := List.mem_map_of_mem ha
    rw [mapM_eq_ok_iff.mp hall, h] at hmem
    simp at hmem

theorem severity_eq_error {texts : List String} {text : String} (htext : text ∈ texts)
    (h : ¬ IsReadable text) :
    ∃ stop, severity texts = .error stop ∧ ∃ text ∈ texts, Overruns text stop := by
  obtain ⟨_, hread, -⟩ := read_eq_error h
  obtain ⟨text', htext', stop, hstop, hall⟩ := exists_mapM_eq_error htext hread
  refine ⟨stop, ?_, text', htext', overruns_of_read hstop⟩
  rw [severity, hall]
  rfl

theorem conflict?_eq_error {g : Group} (hdiffer : Differ g.entries) {e : RepoVersion}
    (he : e ∈ g.entries) (h : ¬ IsReadable e.version) :
    ∃ stop, g.conflict? = .error stop ∧ ∃ e ∈ g.entries, Overruns e.version stop := by
  have htext : e.version ∈ distinct (g.entries.map RepoVersion.version) :=
    mem_distinct.mpr (List.mem_map_of_mem he)
  obtain ⟨stop, hseverity, text, htext, hoverruns⟩ := severity_eq_error htext h
  obtain ⟨e', he', rfl⟩ := List.mem_map.mp (mem_distinct.mp htext)
  refine ⟨stop, ?_, e', he', hoverruns⟩
  simp only [Group.conflict?, if_neg (differ_iff.mp hdiffer), hseverity]
  rfl

theorem overruns_of_conflict? {g : Group} (h : g.conflict? = .error stop) :
    ∃ e ∈ g.entries, Overruns e.version stop := by
  have hread : ¬ (Differ g.entries → ∀ e ∈ g.entries, IsReadable e.version) := by
    intro hread
    rw [conflict?_eq_ok hread] at h
    cases h
  push Not at hread
  obtain ⟨hdiffer, e, he, hunreadable⟩ := hread
  obtain ⟨_, hstop, hoverruns⟩ := conflict?_eq_error hdiffer he hunreadable
  rw [h] at hstop
  cases hstop
  exact hoverruns

theorem conflictsOf_eq_error {gs : List Group} {g : Group} (hg : g ∈ gs)
    (hdiffer : Differ g.entries) {e : RepoVersion} (he : e ∈ g.entries)
    (h : ¬ IsReadable e.version) :
    ∃ stop, conflictsOf gs = .error stop ∧
      ∃ g ∈ gs, ∃ e ∈ g.entries, Overruns e.version stop := by
  obtain ⟨_, hconflict, -⟩ := conflict?_eq_error hdiffer he h
  obtain ⟨g', hg', stop, hstop, hall⟩ := exists_mapM_eq_error hg hconflict
  refine ⟨stop, ?_, g', hg', overruns_of_conflict? hstop⟩
  rw [conflictsOf, hall]
  rfl

end Grades

/-! ## When the search stops -/

/-- A repository declares a package at least twice, once with an overlong version. -/
def HasOverlongPair (ds : List Declaration) : Prop :=
  ∃ package repo, 2 ≤ (declared ds package repo).length ∧
    ∃ d ∈ declared ds package repo, ¬ IsReadable (versionText d.version)

/-- The entries of a package differ, and one of them is overlong. -/
def HasOverlongGrade (ds : List Declaration) (chosen : String → String → Declaration) : Prop :=
  ∃ package, Differ (entriesOf ds chosen package) ∧
    ∃ e ∈ entriesOf ds chosen package, ¬ IsReadable e.version

/-- An overlong version is read: it is compared, or nothing of the kind is compared and it is
graded. -/
def ReadsOverlong (ds : List Declaration) (chosen : String → String → Declaration) : Prop :=
  HasOverlongPair ds ∨ ¬ HasOverlongPair ds ∧ HasOverlongGrade ds chosen

section Conflicts
variable {ds : List Declaration} {chosen : String → String → Declaration} {package repo : String}

theorem declared_sublist (ds : List Declaration) (package repo : String) :
    (declared ds package repo).Sublist ds :=
  List.filter_sublist.trans List.filter_sublist

/-- Two of the elements of a list are a sublist, in one order or the other. -/
theorem exists_pair_sublist {α : Type} {as : List α} {a : α} (ha : a ∈ as) (h : 2 ≤ as.length) :
    ∃ b, [a, b].Sublist as ∨ [b, a].Sublist as := by
  obtain ⟨front, back, rfl⟩ := List.append_of_mem ha
  cases back with
  | cons b back =>
    exact ⟨b, .inl (List.Sublist.trans (by simp) (List.sublist_append_right front _))⟩
  | nil =>
    cases front with
    | nil => simp at h
    | cons b front => exact ⟨b, .inr (by simp)⟩

theorem pairwise_comparable_iff : ds.Pairwise Comparable ↔ ¬ HasOverlongPair ds := by
  constructor
  · rintro h ⟨package, repo, htwo, d, hd, hunreadable⟩
    obtain ⟨-, hpackage, hrepo⟩ := mem_declared.mp hd
    obtain ⟨e, hpair⟩ := exists_pair_sublist hd htwo
    have he : e ∈ declared ds package repo := by
      rcases hpair with hpair | hpair <;> exact hpair.subset (by simp)
    obtain ⟨-, hepackage, herepo⟩ := mem_declared.mp he
    have hcomparable : Comparable d e := by
      rcases hpair with hpair | hpair
      · exact List.pairwise_iff_forall_sublist.mp h (hpair.trans (declared_sublist ..))
      · exact (List.pairwise_iff_forall_sublist.mp h (hpair.trans (declared_sublist ..))).symm
    exact hunreadable (hcomparable (by rw [hpackage, hepackage]) (by rw [hrepo, herepo])).1
  · intro h
    refine List.pairwise_iff_forall_sublist.mpr fun {d e} hpair hpackage hrepo => ?_
    have hdeclared : [d, e].Sublist (declared ds d.package d.repo) := by
      have hboth := (hpair.filter fun c => c.package = d.package).filter fun c => c.repo = d.repo
      rw [declared]
      simpa [hpackage, hrepo] using hboth
    have hread : ∀ c ∈ [d, e], IsReadable (versionText c.version) := by
      intro c hc
      by_contra hunreadable
      exact h ⟨_, _, hdeclared.length_le, c, hdeclared.subset hc, hunreadable⟩
    exact ⟨hread d (by simp), hread e (by simp)⟩

theorem conflicts_of_hasOverlongPair (h : HasOverlongPair ds) :
    ∃ stop, conflicts ds = .error stop ∧ ∃ d ∈ ds, Overruns (versionText d.version) stop := by
  obtain ⟨stop, hgroups, hoverruns⟩ := groups_eq_error (mt pairwise_comparable_iff.mp (not_not.mpr h))
  refine ⟨stop, ?_, hoverruns⟩
  rw [conflicts, hgroups]
  rfl

theorem conflicts_of_hasOverlongGrade (hchoice : IsChoice ds chosen) (hpair : ¬ HasOverlongPair ds)
    (h : HasOverlongGrade ds chosen) :
    ∃ stop, conflicts ds = .error stop ∧ ∃ d ∈ ds, Overruns (versionText d.version) stop := by
  obtain ⟨package, hdiffer, e, he, hunreadable⟩ := h
  obtain ⟨gs, hgroups, hgs⟩ := exists_groups (pairwise_comparable_iff.mpr hpair)
  have hmap := groups_eq_map hchoice hgs
  obtain ⟨d, hd, -, -, rfl, -⟩ := exists_repos_of_differ hdiffer
  have hg : { package := d.package, entries := entriesOf ds chosen d.package } ∈ gs := by
    rw [hmap]
    exact List.mem_map_of_mem (mem_distinct.mpr (List.mem_map_of_mem hd))
  obtain ⟨stop, hstop, g, hg', e', he', hoverruns⟩ := conflictsOf_eq_error hg hdiffer he hunreadable
  rw [hmap] at hg'
  obtain ⟨package', -, rfl⟩ := List.mem_map.mp hg'
  obtain ⟨d', hd', hversion⟩ := exists_version_eq hchoice he'
  rw [hversion] at hoverruns
  refine ⟨stop, ?_, d', hd', hoverruns⟩
  rw [conflicts, hgroups]
  exact hstop

theorem conflicts_of_readable (hchoice : IsChoice ds chosen) (hpair : ¬ HasOverlongPair ds)
    (hgrade : ¬ HasOverlongGrade ds chosen) : conflicts ds = .ok (report ds chosen) := by
  refine conflicts_eq_report_of_comparable (pairwise_comparable_iff.mpr hpair) ?_ hchoice
  intro package hdiffer e he
  by_contra hunreadable
  exact hgrade ⟨package, hdiffer, e, he, hunreadable⟩

theorem conflicts_cases (hchoice : IsChoice ds chosen) :
    (ReadsOverlong ds chosen ∧
      ∃ stop, conflicts ds = .error stop ∧ ∃ d ∈ ds, Overruns (versionText d.version) stop) ∨
    (¬ ReadsOverlong ds chosen ∧ conflicts ds = .ok (report ds chosen)) := by
  by_cases hpair : HasOverlongPair ds
  · exact .inl ⟨.inl hpair, conflicts_of_hasOverlongPair hpair⟩
  by_cases hgrade : HasOverlongGrade ds chosen
  · exact .inl ⟨.inr ⟨hpair, hgrade⟩, conflicts_of_hasOverlongGrade hchoice hpair hgrade⟩
  · refine .inr ⟨?_, conflicts_of_readable hchoice hpair hgrade⟩
    rintro (h | ⟨-, h⟩)
    · exact hpair h
    · exact hgrade h

end Conflicts

end ServiceContracts.Dependency
