import ServiceContracts.Proofs.Path.Canonical
import ServiceContracts.Proofs.Path.Segments

/-!
# Joined paths

A path with its slashes in order is the one that its segments make up. So joining is told by
segments alone: those of all parts, one part after the other, whatever slashes and blanks the parts
have at their ends.

* `IsTidy.slashed_segments` : a tidy path is made of its segments;
* `segments_eq_iff` : paths with the same segments differ in extra slashes only;
* `segments_intercalate` : a slash between two parts merges no segments;
* `partSegments`, `joinChars_eq_slashed`, `toList_join` : the closed form of a joined path;
* `segments_join`, `isTidy_join` : its segments and its slashes.
-/

namespace ServiceContracts.Path
open Text

/-! ## Tidy paths -/

section Tidy
variable {path rest : List Char}

theorem of_mem_segments {s : List Char} (h : s ∈ segments path) : s ≠ [] ∧ '/' ∉ s := by
  obtain ⟨hs, hne⟩ := List.mem_filter.mp h
  exact ⟨by simpa using hne, not_mem_of_mem_split hs⟩

/-- A slash in front of every segment. -/
theorem slashed_eq_flatMap {segs : List (List Char)} (h : segs ≠ []) :
    slashed segs = segs.flatMap ('/' :: ·) := by
  induction segs with
  | nil => exact absurd rfl h
  | cons s segs ih =>
    cases segs with
    | nil => simp [slashed_singleton]
    | cons t segs =>
      rw [slashed_cons_cons, ih (List.cons_ne_nil _ _)]
      rfl

/-- An empty piece would stand between two slashes or behind the last one. -/
theorem IsTidy.nil_not_mem_split (h : IsTidy ('/' :: rest)) (hne : rest ≠ []) :
    [] ∉ split '/' rest := by
  intro hmem
  obtain ⟨before, behind, hsplit⟩ := List.append_of_mem hmem
  have hpath : '/' :: rest =
      before.flatMap ('/' :: ·) ++ '/' :: behind.flatMap ('/' :: ·) := by
    rw [← intercalate_split '/' rest, ← slashed, slashed_eq_flatMap (split_ne_nil '/' rest), hsplit,
      List.flatMap_append, List.flatMap_cons]
    rfl
  cases behind with
  | nil =>
    have hlast : ('/' :: rest).getLast? = some '/' := by
      rw [hpath]
      simp
    exact hne (List.cons.inj (h.ended hlast)).2
  | cons piece behind =>
    have hsingle := List.isChain_iff_forall_rel_of_append_cons_cons.mp h.single
    exact hsingle (hpath.trans (by rw [List.flatMap_cons, List.cons_append])) rfl rfl

/-- The segments of a tidy path, joined by slashes, give it back. -/
theorem IsTidy.slashed_segments (h : IsTidy path) : slashed (segments path) = path := by
  obtain ⟨rest, rfl⟩ := List.head?_eq_some_iff.mp h.front
  rw [segments_slash]
  by_cases hne : rest = []
  · rw [hne]
    rfl
  · have hkept : segments rest = split '/' rest := by
      refine List.filter_eq_self.mpr fun piece hpiece => ?_
      have : piece ≠ [] := fun hnil => h.nil_not_mem_split hne (hnil ▸ hpiece)
      simpa using this
    rw [hkept, slashed, intercalate_split]

theorem tidy_eq_slashed (h : path.head? = some '/') : tidy path = slashed (segments path) := by
  rw [← segments_tidy path, (isTidy_tidy h).slashed_segments]

end Tidy

/-- The segments tell a path up to extra slashes. -/
theorem segments_eq_iff {path path' : List Char} :
    segments path' = segments path ↔ SameButSlashes path path' := by
  refine ⟨fun h => ?_, SameButSlashes.segments_eq⟩
  have htidy : ∀ path, SameButSlashes path (slashed (segments path)) := by
    intro path
    rw [← segments_slash, ← tidy_eq_slashed rfl]
    exact .trans _ _ _ (.rel _ _ (.front path)) (.symm _ _ (sameButSlashes_tidy _))
  exact .trans _ _ _ (htidy path) (.symm _ _ (h ▸ htidy path'))

/-! ## Joining -/

theorem segments_intercalate (parts : List (List Char)) :
    segments (['/'].intercalate parts) = parts.flatMap segments := by
  induction parts with
  | nil => rfl
  | cons part parts ih =>
    cases parts with
    | nil => simp
    | cons next parts =>
      rw [List.intercalate_cons_cons, List.append_assoc, List.singleton_append,
        segments_append_slash, ih, ← List.flatMap_cons]

/-- The segments of a part, the blanks around it left out. -/
def partSegments (part : String) : List (List Char) := segments (trim part).toList

/-- Blank parts have no segments, so that it does not matter that they are left out. -/
theorem flatMap_segments_filter (parts : List (List Char)) :
    (parts.filter fun part => !part.isEmpty).flatMap segments = parts.flatMap segments := by
  induction parts with
  | nil => rfl
  | cons part parts ih =>
    cases part with
    | nil => simpa using ih
    | cons c part => simp [ih]

theorem joinChars_eq_slashed (parts : List (List Char)) :
    joinChars parts = slashed (parts.flatMap fun part => segments (trimChars part)) := by
  rw [joinChars, tidy_eq_slashed rfl, segments_slash, segments_intercalate, flatMap_segments_filter,
    List.flatMap_map]

theorem toList_join (parts : List String) :
    (join parts).toList = slashed (parts.flatMap partSegments) := by
  have hparts : ∀ part : String, segments (trimChars part.toList) = partSegments part := by
    intro part
    rw [partSegments, trim, String.toList_ofList]
  rw [join, String.toList_ofList, joinChars_eq_slashed, List.flatMap_map]
  simp only [hparts]

theorem segments_join (parts : List String) :
    segments (join parts).toList = parts.flatMap partSegments := by
  rw [toList_join]
  refine segments_slashed fun s hs => ?_
  obtain ⟨part, -, hs⟩ := List.mem_flatMap.mp hs
  exact of_mem_segments hs

theorem isTidy_join (parts : List String) : IsTidy (join parts).toList := by
  rw [join, String.toList_ofList]
  exact isTidy_tidy rfl

/-- Slashes and blanks at the ends of parts do not count, and a part may hold several segments. -/
example : join [" /api/", "", "//", "v1//users ", "/:id"] = "/api/v1/users/:id" := by decide +kernel

end ServiceContracts.Path
