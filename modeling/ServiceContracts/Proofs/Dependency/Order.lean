import Mathlib.Data.List.Nodup
import Mathlib.Order.OrderDual
import ServiceContracts.Proofs.Dependency.Report

/-!
# Grades and the order of the declarations

Of several texts that spell the highest version of a repository the first one counts, so the texts
of a conflict depend on the order of the declarations, and so does whether there is one at all. The
version that is spelled does not, and a grade above the lowest one is told from versions alone.

* `foldl_least` : a fold that keeps the lesser of two items ends with a least one;
* `spread_congr` : the grade of some versions is one of the set of them;
* `version?_chosen` : which version counts is the same for every order;
* `serious`, `serious_conflicts_perm` : the packages graded above the lowest grade.
-/

namespace ServiceContracts.Dependency

/-! ## The grade of a set of versions -/

section Spread
variable {α β : Type} [Preorder β] {pick : α → α → α}

/-- Folding a choice between two items that never takes the greater one. -/
theorem foldl_least (key : α → β) (hpick : ∀ a b, pick a b = a ∨ pick a b = b)
    (hle : ∀ a b, key (pick a b) ≤ key a ∧ key (pick a b) ≤ key b) (a : α) (as : List α) :
    as.foldl pick a ∈ a :: as ∧ ∀ b ∈ a :: as, key (as.foldl pick a) ≤ key b := by
  induction as generalizing a with
  | nil => simp
  | cons b as ih =>
    obtain ⟨hmem, hleast⟩ := ih (pick a b)
    obtain ⟨hfirst, hrest⟩ := List.forall_mem_cons.mp hleast
    have ha : key (as.foldl pick (pick a b)) ≤ key a := hfirst.trans (hle a b).1
    have hb : key (as.foldl pick (pick a b)) ≤ key b := hfirst.trans (hle a b).2
    rw [List.foldl_cons]
    refine ⟨?_, List.forall_mem_cons.mpr ⟨ha, List.forall_mem_cons.mpr ⟨hb, hrest⟩⟩⟩
    rcases List.mem_cons.mp hmem with heq | hmem
    · rw [heq]
      rcases hpick a b with h | h <;> simp [h]
    · exact List.mem_cons_of_mem _ (List.mem_cons_of_mem _ hmem)

theorem Version.triple_inj {v w : Version} (h : v.triple = w.triple) : v = w := by
  obtain ⟨major, minor, patch⟩ := v
  obtain ⟨major', minor', patch'⟩ := w
  simpa [Version.triple] using h

theorem foldl_lower_spec (v : Version) (vs : List Version) :
    vs.foldl lower v ∈ v :: vs ∧ ∀ w ∈ v :: vs, (vs.foldl lower v).triple ≤ w.triple := by
  apply foldl_least Version.triple
  · intro a b
    rw [lower]
    split
    · exact .inr rfl
    · exact .inl rfl
  · intro a b
    rw [lower]
    split
    · next hlt => exact ⟨(Version.lt_iff.mp hlt).le, le_rfl⟩
    · next hge => exact ⟨le_rfl, not_lt.mp (mt Version.lt_iff.mpr hge)⟩

theorem foldl_higher_spec (v : Version) (vs : List Version) :
    vs.foldl higher v ∈ v :: vs ∧ ∀ w ∈ v :: vs, w.triple ≤ (vs.foldl higher v).triple := by
  apply foldl_least fun v : Version => OrderDual.toDual v.triple
  · intro a b
    rw [higher]
    split
    · exact .inr rfl
    · exact .inl rfl
  · intro a b
    rw [higher]
    split
    · next hlt => exact ⟨(Version.lt_iff.mp hlt).le, le_rfl⟩
    · next hge => exact ⟨le_rfl, not_lt.mp (mt Version.lt_iff.mpr hge)⟩

/-- The grade depends on which versions there are, and neither on their order nor on repetitions. -/
theorem spread_congr {vs vs' : List Version} (h : ∀ v, v ∈ vs ↔ v ∈ vs') :
    spread vs = spread vs' := by
  rcases vs with _ | ⟨v, vs⟩
  · obtain rfl : vs' = [] :=
      List.eq_nil_iff_forall_not_mem.mpr fun v hv => by simpa using (h v).mpr hv
    rfl
  rcases vs' with _ | ⟨v', vs'⟩
  · simpa using (h v).mp List.mem_cons_self
  obtain ⟨hlow, hleast⟩ := foldl_lower_spec v vs
  obtain ⟨hlow', hleast'⟩ := foldl_lower_spec v' vs'
  obtain ⟨hhigh, hgreatest⟩ := foldl_higher_spec v vs
  obtain ⟨hhigh', hgreatest'⟩ := foldl_higher_spec v' vs'
  have hsameLow : vs.foldl lower v = vs'.foldl lower v' :=
    Version.triple_inj (le_antisymm (hleast _ ((h _).mpr hlow')) (hleast' _ ((h _).mp hlow)))
  have hsameHigh : vs.foldl higher v = vs'.foldl higher v' :=
    Version.triple_inj (le_antisymm (hgreatest' _ ((h _).mp hhigh)) (hgreatest _ ((h _).mpr hhigh')))
  simp only [spread, hsameLow, hsameHigh]

theorem spread_of_length_lt_two {vs : List Version} (h : vs.length < 2) : spread vs = .info := by
  rcases vs with _ | ⟨v, _ | ⟨w, vs⟩⟩
  · rfl
  · simp [spread]
  · rw [List.length_cons, List.length_cons] at h
    omega

end Spread

/-! ## The versions that count -/

section Counting
variable {ds ds' : List Declaration} {chosen chosen' : String → String → Declaration}
  {package repo : String}

theorem version?_eq_of_rank_eq {text other : String} (h : rank text = rank other) :
    version? text = version? other := by
  cases htext : version? text with
  | none =>
    rw [rank_eq_bot_iff.mpr htext] at h
    exact (rank_eq_bot_iff.mp h.symm).symm
  | some v =>
    cases hother : version? other with
    | none =>
      rw [rank_eq_bot_iff.mpr hother, rank_eq_bot_iff, htext] at h
      cases h
    | some w =>
      rw [rank_of_version? htext, rank_of_version? hother] at h
      rw [Version.triple_inj (WithBot.coe_injective h)]

theorem mem_declarers_perm (hperm : ds'.Perm ds) :
    repo ∈ declarers ds' package ↔ repo ∈ declarers ds package := by
  simp only [mem_declarers, hperm.mem_iff]

/-- A repository counts with the same version, in whatever order its declarations come. -/
theorem version?_chosen (hperm : ds'.Perm ds) (hchoice : IsChoice ds chosen)
    (hchoice' : IsChoice ds' chosen') (hrepo : repo ∈ declarers ds package) :
    version? (versionText (chosen' package repo).version) =
      version? (versionText (chosen package repo).version) := by
  have hown := hchoice.isChosen hrepo
  have hown' := hchoice'.isChosen ((mem_declarers_perm hperm).mpr hrepo)
  have hmem : ∀ d, d ∈ declared ds' package repo ↔ d ∈ declared ds package repo := by
    intro d
    rw [mem_declared, mem_declared, hperm.mem_iff]
  apply version?_eq_of_rank_eq
  exact le_antisymm (hown.rank_le _ ((hmem _).mp hown'.mem)) (hown'.rank_le _ ((hmem _).mpr hown.mem))

/-- The grade that the entries of a package get, be they in conflict or not. -/
def gradeOf (ds : List Declaration) (chosen : String → String → Declaration) (package : String) :
    Severity :=
  classify (distinct ((entriesOf ds chosen package).map RepoVersion.version))

theorem mem_versions_iff {v : Version} :
    v ∈ (distinct ((entriesOf ds chosen package).map RepoVersion.version)).filterMap version? ↔
      ∃ repo ∈ declarers ds package,
        version? (versionText (chosen package repo).version) = some v := by
  simp [mem_distinct, entriesOf]

theorem gradeOf_perm (hperm : ds'.Perm ds) (hchoice : IsChoice ds chosen)
    (hchoice' : IsChoice ds' chosen') (package : String) :
    gradeOf ds' chosen' package = gradeOf ds chosen package := by
  apply spread_congr
  intro v
  rw [mem_versions_iff, mem_versions_iff]
  constructor
  · rintro ⟨repo, hrepo, hv⟩
    rw [mem_declarers_perm hperm] at hrepo
    exact ⟨repo, hrepo, (version?_chosen hperm hchoice hchoice' hrepo).symm.trans hv⟩
  · rintro ⟨repo, hrepo, hv⟩
    exact ⟨repo, (mem_declarers_perm hperm).mpr hrepo,
      (version?_chosen hperm hchoice hchoice' hrepo).trans hv⟩

/-- Entries with a single text spell one version at most. -/
theorem differ_of_gradeOf (h : gradeOf ds chosen package ≠ .info) :
    Differ (entriesOf ds chosen package) := by
  rw [differ_iff]
  intro hlt
  exact h (spread_of_length_lt_two ((List.length_filterMap_le _ _).trans_lt hlt))

end Counting

/-! ## Serious conflicts -/

/-- The packages that are graded above the lowest grade, with their grades. -/
def serious (found : List Conflict) : List (String × Severity) :=
  (found.map fun c => (c.package, c.severity)).filter fun graded => graded.2 != .info

section Serious
variable {ds : List Declaration} {chosen : String → String → Declaration}

theorem mem_serious_report {package : String} {grade : Severity} :
    (package, grade) ∈ serious (report ds chosen) ↔
      grade ≠ .info ∧ gradeOf ds chosen package = grade := by
  simp only [serious, List.mem_filter, List.mem_map, Prod.mk.injEq, bne_iff_ne]
  constructor
  · rintro ⟨⟨c, hc, rfl, rfl⟩, hgrade⟩
    obtain ⟨package, -, rfl⟩ := exists_of_mem_report hc
    exact ⟨hgrade, rfl⟩
  · rintro ⟨hgrade, rfl⟩
    have hdiffer := differ_of_gradeOf hgrade
    obtain ⟨d, hd, -, -, rfl, -⟩ := exists_repos_of_differ hdiffer
    have hpackage : d.package ∈ distinct (ds.map Declaration.package) :=
      mem_distinct.mpr (List.mem_map_of_mem hd)
    have hreported : conflictOf d.package (entriesOf ds chosen d.package) ∈ report ds chosen :=
      List.mem_map_of_mem (List.mem_filter.mpr ⟨hpackage, by simpa using hdiffer⟩)
    exact ⟨⟨_, hreported, rfl, rfl⟩, hgrade⟩

theorem nodup_serious_report (ds : List Declaration) (chosen : String → String → Declaration) :
    (serious (report ds chosen)).Nodup := by
  apply List.Pairwise.filter
  apply List.Nodup.of_map Prod.fst
  rw [List.map_map]
  exact nodup_report ds chosen

end Serious

/-- In whatever order the declarations come, the same packages are in conflict with a grade above
the lowest one, each with the same grade. -/
theorem serious_conflicts_perm (ds ds' : List Declaration) (hperm : ds'.Perm ds)
    (hread : ∀ d ∈ ds, IsReadable (versionText d.version)) :
    ∃ found found', conflicts ds = .ok found ∧ conflicts ds' = .ok found' ∧
      (serious found').Perm (serious found) := by
  have hread' : ∀ d ∈ ds', IsReadable (versionText d.version) :=
    fun d hd => hread d (hperm.mem_iff.mp hd)
  obtain ⟨chosen, hchoice⟩ := exists_isChoice ds
  obtain ⟨chosen', hchoice'⟩ := exists_isChoice ds'
  refine ⟨_, _, conflicts_eq_ok hread hchoice, conflicts_eq_ok hread' hchoice', ?_⟩
  apply (List.perm_ext_iff_of_nodup (nodup_serious_report _ _) (nodup_serious_report _ _)).mpr
  rintro ⟨package, grade⟩
  rw [mem_serious_report, mem_serious_report, gradeOf_perm hperm hchoice hchoice']

/-- Turned around, `web` counts with another text for the same version of `db`, which then differs
from that of `shop`; the conflict about `ui` stays. -/
theorem serious_conflicts_perm_reversed :
    let declare (package version repo : String) : Declaration := { package, version, repo }
    let ds := [declare "db" "1.0" "web", declare "ui" "latest" "web", declare "db" "1.0.0" "web",
      declare "db" "~1.0" "shop", declare "ui" "2.1" "web", declare "ui" "1.9" "shop"]
    ∃ found found', conflicts ds = .ok found ∧ conflicts ds.reverse = .ok found' ∧
      found.map Conflict.package = ["ui"] ∧ found'.map Conflict.package = ["ui", "db"] ∧
      serious found = [("ui", .critical)] ∧ serious found' = [("ui", .critical)] := by
  intro declare ds
  have hread : ∀ d ∈ ds, IsReadable (versionText d.version) := by decide +kernel
  obtain ⟨found, found', hfound, hfound', hserious⟩ :=
    serious_conflicts_perm ds ds.reverse (List.reverse_perm ds) hread
  have hfirst : (conflicts ds).toOption.map (fun found => (found.map Conflict.package,
      serious found)) = some (["ui"], [("ui", .critical)]) := by decide +kernel
  have hturned : (conflicts ds.reverse).toOption.map (List.map Conflict.package) =
      some ["ui", "db"] := by decide +kernel
  rw [hfound] at hfirst
  rw [hfound'] at hturned
  obtain ⟨hpackages, hsame⟩ := Prod.mk.inj (Option.some.inj hfirst)
  rw [hsame, List.perm_singleton] at hserious
  exact ⟨found, found', hfound, hfound', hpackages, Option.some.inj hturned, hsame, hserious⟩

end ServiceContracts.Dependency
