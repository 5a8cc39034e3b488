import Mathlib.Data.Set.List
import ServiceContracts.Proofs.Boundary.Widening
import ServiceContracts.Proofs.Distinct
import ServiceContracts.Proofs.Traversal
import ServiceContracts.Source.Load

/-!
# Boundaries put together

Boundaries from several files are put together one after another. Each list of the outcome holds
the entries of all files in the order in which they came up first, and where a target lies depends
only on which entries there are: neither the order of the files nor their repetition counts, also
where the files disagree about a variable.

* `Listing`, `Boundary.listed` : the three lists of a boundary;
* `listed_merge`, `merge_assoc` : two boundaries put together, and three;
* `listed_foldl_merge` : any number of boundaries put together;
* `normalize_congr` : all that counts for a target is which entries are listed;
* `boundaries_eq_mapM` : loading files is reading each and putting the boundaries together;
* `normalize_foldl_merge` : order and repetition do not count.
-/

namespace ServiceContracts.Boundary

/-- The lists of a boundary. -/
inductive Listing where
  | internalDomains
  | internalVariables
  | externalVariables

/-- The entries of a list of a boundary. -/
def listed (b : Boundary) : Listing → List String
  | .internalDomains => b.internalDomains
  | .internalVariables => b.internalVariables
  | .externalVariables => b.externalVariables

/-! ## The lists of the outcome -/

section Lists
variable {b c : Boundary}

theorem ext_listed (h : ∀ l, b.listed l = c.listed l) : b = c := by
  obtain ⟨domains, internal, external⟩ := b
  obtain ⟨domains', internal', external'⟩ := c
  obtain rfl : domains = domains' := h .internalDomains
  obtain rfl : internal = internal' := h .internalVariables
  obtain rfl : external = external' := h .externalVariables
  rfl

theorem listed_merge (b c : Boundary) (l : Listing) :
    (b.merge c).listed l = distinct (b.listed l ++ c.listed l) := by
  cases l <;> rfl

theorem merge_assoc (b c d : Boundary) : (b.merge c).merge d = b.merge (c.merge d) := by
  apply ext_listed
  intro l
  rw [listed_merge, listed_merge, listed_merge, listed_merge, distinct_append_left,
    distinct_append_right, List.append_assoc]

theorem listed_foldl_merge (bs : List Boundary) (l : Listing) :
    (bs.foldl merge {}).listed l = distinct (bs.flatMap fun b => b.listed l) := by
  induction bs using List.reverseRecOn with
  | nil => cases l <;> rfl
  | append_singleton bs b ih =>
    rw [List.foldl_concat, listed_merge, ih, distinct_append_left, List.flatMap_append,
      List.flatMap_singleton]

theorem mem_listed_foldl_merge {bs : List Boundary} {l : Listing} {entry : String} :
    entry ∈ (bs.foldl merge {}).listed l ↔ ∃ b ∈ bs, entry ∈ b.listed l := by
  rw [listed_foldl_merge, mem_distinct, List.mem_flatMap]

end Lists

/-! ## What counts for a target -/

section Targets
variable {b c : Boundary}

/-- A boundary is no narrower than one whose entries it lists. -/
theorem within_of_listed (h : ∀ l, ∀ entry ∈ b.listed l, entry ∈ c.listed l) : Within b c where
  hosts := by
    apply isInternalHost_mono
    intro host hhost
    obtain ⟨domain, hdomain, hrest⟩ := mem_hosts.mp hhost
    exact mem_hosts.mpr ⟨domain, h .internalDomains domain hdomain, hrest⟩
  internal := h .internalVariables
  external := h .externalVariables

/-- Two boundaries that are no narrower than each other place every target alike. -/
theorem normalize_eq_of_within (hbc : Within b c) (hcb : Within c b) (raw : String) :
    b.normalize raw = c.normalize raw := by
  have hhost : ∀ host, b.isInternalHost host = c.isInternalHost host := fun host =>
    Bool.eq_iff_iff.mpr ⟨hbc.hosts host, hcb.hosts host⟩
  have hinternal : ∀ name, name ∈ b.internalVariables ↔ name ∈ c.internalVariables := fun name =>
    ⟨hbc.internal name, hcb.internal name⟩
  have hexternal : ∀ name, name ∈ b.externalVariables ↔ name ∈ c.externalVariables := fun name =>
    ⟨hbc.external name, hcb.external name⟩
  have hstanding : ∀ target, b.standing target = c.standing target := by
    intro target
    cases target with
    | unknown path => rfl
    | relative path => rfl
    | absolute host path => simp only [standing, hhost]
    | envBased name spelling path => simp only [standing, hinternal, hexternal]
  rw [normalize, normalize, hstanding]

theorem normalize_congr (h : ∀ l entry, entry ∈ b.listed l ↔ entry ∈ c.listed l) (raw : String) :
    b.normalize raw = c.normalize raw :=
  normalize_eq_of_within (within_of_listed fun l entry => (h l entry).mp)
    (within_of_listed fun l entry => (h l entry).mpr) raw

theorem normalize_foldl_merge_congr {bs cs : List Boundary} (h : ∀ b, b ∈ cs ↔ b ∈ bs)
    (raw : String) : (cs.foldl merge {}).normalize raw = (bs.foldl merge {}).normalize raw := by
  apply normalize_congr
  intro l entry
  rw [mem_listed_foldl_merge, mem_listed_foldl_merge]
  simp only [h]

end Targets

/-! ## Files -/

section Files
open Source
variable {files : String → Entry} {paths paths' : List String} {merged : Boundary}

/-- Loading files is reading each of them and putting the boundaries together in order. -/
theorem boundaries_eq_mapM : boundaries files paths =
    (paths.mapM fun path => boundary path (files path)).map fun bs => bs.foldl merge {} := by
  rw [boundaries]
  generalize ({} : Boundary) = start
  induction paths generalizing start with
  | nil => rfl
  | cons path paths ih =>
    rw [List.foldlM_cons, List.mapM_cons]
    cases boundary path (files path) with
    | error fault => rfl
    | ok b =>
      refine (ih (start.merge b)).trans ?_
      cases paths.mapM fun path => boundary path (files path) <;> rfl

theorem boundaries_eq_ok : boundaries files paths = .ok merged ↔
    ∃ bs : List Boundary, (paths.map fun path => boundary path (files path)) = bs.map .ok ∧
      merged = bs.foldl merge {} := by
  simp only [boundaries_eq_mapM, ← mapM_eq_ok_iff]
  cases paths.mapM fun path => boundary path (files path) with
  | error fault => simp [Except.map]
  | ok bs => simp [Except.map, eq_comm]

theorem mem_of_read {bs : List Boundary}
    (h : (paths.map fun path => boundary path (files path)) = bs.map .ok) (b : Boundary) :
    b ∈ bs ↔ ∃ path ∈ paths, boundary path (files path) = .ok b := by
  rw [← List.mem_map, h]
  simp

/-- The same files in another order, and some of them repeatedly, are loaded as well. -/
theorem boundaries_congr (hpaths : ∀ path, path ∈ paths' ↔ path ∈ paths)
    (h : boundaries files paths = .ok merged) :
    ∃ merged', boundaries files paths' = .ok merged' ∧
      ∀ raw, merged'.normalize raw = merged.normalize raw := by
  obtain ⟨bs, hbs, rfl⟩ := boundaries_eq_ok.mp h
  have hall : ∀ r ∈ paths'.map fun path => boundary path (files path), r ∈ Set.range Except.ok := by
    intro r hr
    obtain ⟨path, hpath, rfl⟩ := List.mem_map.mp hr
    have hmem := List.mem_map_of_mem (f := fun path => boundary path (files path))
      ((hpaths path).mp hpath)
    rw [hbs] at hmem
    obtain ⟨b, -, hb⟩ := List.mem_map.mp hmem
    exact ⟨b, hb⟩
  obtain ⟨bs', hbs'⟩ : (paths'.map fun path => boundary path (files path)) ∈
      Set.range (List.map Except.ok) := by
    rw [Set.range_list_map]
    exact hall
  refine ⟨bs'.foldl merge {}, boundaries_eq_ok.mpr ⟨bs', hbs'.symm, rfl⟩, fun raw => ?_⟩
  apply normalize_foldl_merge_congr
  intro b
  rw [mem_of_read hbs, mem_of_read hbs'.symm]
  simp only [hpaths]

end Files

/-- However often and in whatever order boundaries are put together, every target lies where it lay.
The lists of the outcome hold the entries of all, each once, in the order in which they came up, and
it makes no difference which boundaries are put together first. So it is with files that are loaded:
if they can be loaded in one order, they can in any other one. -/
theorem normalize_foldl_merge :
    (∀ bs cs : List Boundary, (∀ b, b ∈ cs ↔ b ∈ bs) →
      ∀ raw, (cs.foldl merge {}).normalize raw = (bs.foldl merge {}).normalize raw) ∧
    (∀ (bs : List Boundary) (l : Listing), ((bs.foldl merge {}).listed l).Nodup ∧
      (∀ entry, entry ∈ (bs.foldl merge {}).listed l ↔ ∃ b ∈ bs, entry ∈ b.listed l) ∧
      ((bs.foldl merge {}).listed l).Pairwise fun x y =>
        (bs.flatMap fun b => b.listed l).idxOf x < (bs.flatMap fun b => b.listed l).idxOf y) ∧
    (∀ b c d : Boundary, (b.merge c).merge d = b.merge (c.merge d)) ∧
    ∀ (files : String → Source.Entry) (paths paths' : List String) (merged : Boundary),
      (∀ path, path ∈ paths' ↔ path ∈ paths) → Source.boundaries files paths = .ok merged →
      ∃ merged', Source.boundaries files paths' = .ok merged' ∧
        ∀ raw, merged'.normalize raw = merged.normalize raw := by
  refine ⟨fun _ _ => normalize_foldl_merge_congr, fun bs l => ⟨?_, ?_, ?_⟩, merge_assoc,
    fun _ _ _ _ => boundaries_congr⟩
  · rw [listed_foldl_merge]
    exact nodup_distinct _
  · exact fun _ => mem_listed_foldl_merge
  · rw [listed_foldl_merge]
    exact pairwise_idxOf_distinct _

/-- Two files disagree about a variable and spell a domain in two ways; one of them is also given
once more. An empty file and one with just a comment are read as the same boundary. -/
theorem normalize_foldl_merge_disagreeing :
    let first : Boundary :=
      { internalDomains := ["https://Users.example/v1", " "], internalVariables := ["API", "API"] }
    let second : Boundary :=
      { internalDomains := ["users.example"], externalVariables := ["CDN", "API"] }
    let files : String → Source.Entry := fun path =>
      if path = "a.yaml" then .file [] else .file [0x23]
    (∀ b, b ∈ [second, first, second] ↔ b ∈ [first, second]) ∧
      (∀ raw, ([second, first, second].foldl merge {}).normalize raw =
        ([first, second].foldl merge {}).normalize raw) ∧
      (([second, first, second].foldl merge {}).normalize "ENV_VAR:API:/x").standing = .internal ∧
      ([second, first, second].foldl merge {}).listed .externalVariables = ["CDN", "API"] ∧
      Source.boundaries files ["a.yaml", "b.yaml"] = .ok {} ∧
      ∃ merged', Source.boundaries files ["b.yaml", "a.yaml", "b.yaml"] = .ok merged' ∧
        ∀ raw, merged'.normalize raw = normalize {} raw := by
  intro first second files
  have hmem : ∀ b, b ∈ [second, first, second] ↔ b ∈ [first, second] := by
    intro b
    simp only [List.mem_cons, List.not_mem_nil]
    tauto
  have hpaths : ∀ path, path ∈ ["b.yaml", "a.yaml", "b.yaml"] ↔ path ∈ ["a.yaml", "b.yaml"] := by
    intro path
    simp only [List.mem_cons, List.not_mem_nil]
    tauto
  have hfiles : Source.boundaries files ["a.yaml", "b.yaml"] = .ok {} := rfl
  exact ⟨hmem, normalize_foldl_merge.1 _ _ hmem, by decide +kernel, by decide +kernel, hfiles,
    normalize_foldl_merge.2.2.2 _ _ _ _ hpaths hfiles⟩

end ServiceContracts.Boundary
