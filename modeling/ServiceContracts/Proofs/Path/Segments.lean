import Mathlib.Data.List.DropRight
import Mathlib.Logic.Relation
import ServiceContracts.Path

/-!
# The segments of a path

* `split_suffix_iff` : the last pieces of a text are those of what follows a separator;
* `segments_append_slash` : a slash cuts a path in two. With this law no other one needs to look at
  the pieces;
* `AddsSlash`, `SameButSlashes.segments_eq` : slashes in front, behind or in a row do not count;
* `segments_tidy`, `segments_rooted` : putting slashes in order keeps the segments;
* `slashed`, `segments_slashed` : the path made of some segments has these segments.
-/

namespace ServiceContracts.Text

theorem split_append_sep (sep : Char) (front back : List Char) :
    split sep (front ++ sep :: back) = split sep front ++ split sep back := by
  induction front with
  | nil =>
    rw [List.nil_append, split.eq_def sep (sep :: back)]
    simp [split]
  | cons c front ih =>
    rw [List.cons_append, split, split, ih]
    by_cases hc : c = sep
    · rw [if_pos hc, if_pos hc, List.cons_append]
    · obtain ⟨piece, pieces, hsplit⟩ := List.exists_cons_of_ne_nil (split_ne_nil sep front)
      rw [if_neg hc, if_neg hc, hsplit, List.cons_append]
      rfl

theorem split_of_not_mem {sep : Char} {cs : List Char} (h : sep ∉ cs) : split sep cs = [cs] := by
  induction cs with
  | nil => rfl
  | cons c cs ih =>
    obtain ⟨hc, hcs⟩ := List.ne_and_not_mem_of_not_mem_cons h
    rw [split, if_neg (Ne.symm hc), ih hcs]

theorem intercalate_append {sep : Char} {pieces pieces' : List (List Char)} (h : pieces ≠ [])
    (h' : pieces' ≠ []) : [sep].intercalate (pieces ++ pieces') =
      [sep].intercalate pieces ++ sep :: [sep].intercalate pieces' := by
  induction pieces with
  | nil => exact absurd rfl h
  | cons piece pieces ih =>
    obtain ⟨first, others, rfl⟩ := List.exists_cons_of_ne_nil h'
    cases pieces with
    | nil => simp [List.intercalate]
    | cons next pieces =>
      have hrest := ih (List.cons_ne_nil _ _)
      simp only [List.intercalate, List.cons_append, List.intersperse, List.flatten_cons,
        List.append_assoc] at hrest ⊢
      rw [hrest]

/-- The last pieces of a text are the pieces of what follows one of its separators. -/
theorem split_suffix_iff {sep : Char} {cs rest : List Char} :
    split sep cs <:+ split sep rest ↔ cs = rest ∨ sep :: cs <:+ rest := by
  constructor
  · rintro ⟨pieces, hpieces⟩
    have hrest := intercalate_split sep rest
    rw [← hpieces] at hrest
    by_cases hnil : pieces = []
    · rw [hnil, List.nil_append, intercalate_split] at hrest
      exact .inl hrest
    · rw [intercalate_append hnil (split_ne_nil sep cs), intercalate_split] at hrest
      exact .inr ⟨_, hrest⟩
  · rintro (rfl | ⟨front, rfl⟩)
    · exact List.suffix_rfl
    · rw [split_append_sep]
      exact List.suffix_append _ _

end ServiceContracts.Text

namespace ServiceContracts.Path
open Text

@[simp] theorem segments_nil : segments [] = [] := rfl

theorem segments_append_slash (front back : List Char) :
    segments (front ++ '/' :: back) = segments front ++ segments back := by
  rw [segments, split_append_sep, List.filter_append]
  rfl

theorem segments_slash (path : List Char) : segments ('/' :: path) = segments path := by
  simpa using segments_append_slash [] path

theorem segments_of_not_mem {cs : List Char} (hne : cs ≠ []) (h : '/' ∉ cs) :
    segments cs = [cs] := by
  rw [segments, split_of_not_mem h, List.filter_cons_of_pos (by simpa using hne), List.filter_nil]

/-! ## Extra slashes -/

/-- A slash is put in front of a path, behind it or next to another one. -/
inductive AddsSlash : List Char → List Char → Prop
  | front (path : List Char) : AddsSlash path ('/' :: path)
  | behind (path : List Char) : AddsSlash path (path ++ ['/'])
  | next (front back : List Char) :
      AddsSlash (front ++ '/' :: back) (front ++ '/' :: '/' :: back)

/-- One path becomes the other by slashes that are added and taken away. -/
abbrev SameButSlashes (path path' : List Char) : Prop := Relation.EqvGen AddsSlash path path'

theorem AddsSlash.segments_eq {path path' : List Char} (h : AddsSlash path path') :
    segments path' = segments path := by
  cases h with
  | front => exact segments_slash path
  | behind => rw [segments_append_slash, segments_nil, List.append_nil]
  | next front back => rw [segments_append_slash, segments_append_slash, segments_slash]

theorem SameButSlashes.segments_eq {path path' : List Char} (h : SameButSlashes path path') :
    segments path' = segments path := by
  induction h with
  | rel _ _ h => exact h.segments_eq
  | refl => rfl
  | symm _ _ _ ih => exact ih.symm
  | trans _ _ _ _ _ ih ih' => exact ih'.trans ih

/-! ## Slashes put in order -/

/-- The text in front of the runs is arbitrary, so that the induction goes through. -/
theorem sameButSlashes_append_collapse (front path : List Char) :
    SameButSlashes (front ++ collapse path) (front ++ path) := by
  induction path generalizing front with
  | nil => exact .refl _
  | cons c cs ih =>
    rw [collapse]
    split
    · next h =>
      obtain ⟨rfl, hcs⟩ := h
      obtain ⟨rest, rfl⟩ := List.head?_eq_some_iff.mp hcs
      exact .trans _ _ _ (ih front) (.rel _ _ (.next front rest))
    · have := ih (front ++ [c])
      simpa using this

theorem sameButSlashes_dropEndWhile (path : List Char) :
    SameButSlashes (dropEndWhile (· == '/') path) path := by
  rw [show dropEndWhile = List.rdropWhile from rfl]
  induction path using List.reverseRecOn with
  | nil => exact .refl _
  | append_singleton path c ih =>
    by_cases hc : c = '/'
    · rw [hc, List.rdropWhile_concat_pos _ _ _ rfl]
      exact .trans _ _ _ ih (.rel _ _ (.behind path))
    · rw [List.rdropWhile_concat_neg _ _ _ (by simpa using hc)]
      exact .refl _

theorem sameButSlashes_tidy (path : List Char) : SameButSlashes (tidy path) path := by
  have hkept : SameButSlashes (dropEndWhile (· == '/') (collapse path)) path :=
    .trans _ _ _ (sameButSlashes_dropEndWhile _) (sameButSlashes_append_collapse [] path)
  rw [tidy]
  split
  · next h =>
    rw [h] at hkept
    exact .trans _ _ _ (.symm _ _ (.rel _ _ (.front []))) hkept
  · exact hkept

theorem segments_tidy (path : List Char) : segments (tidy path) = segments path :=
  (sameButSlashes_tidy path).segments_eq.symm

theorem segments_rooted (path : List Char) : segments (rooted path) = segments path := by
  rw [rooted]
  split
  · rfl
  · exact segments_slash path

/-! ## Paths made of segments -/

/-- A slash in front of some segments and between them. -/
def slashed (segs : List (List Char)) : List Char := '/' :: ['/'].intercalate segs

theorem slashed_singleton (s : List Char) : slashed [s] = '/' :: s := by
  simp [slashed, List.intercalate]

theorem slashed_cons_cons (s t : List Char) (segs : List (List Char)) :
    slashed (s :: t :: segs) = '/' :: s ++ slashed (t :: segs) := by
  simp [slashed, List.intercalate, List.intersperse]

/-- The first segment stands behind the slash in front. -/
theorem slashed_cons (s : List Char) (segs : List (List Char)) :
    ∃ rest, slashed (s :: segs) = '/' :: (s ++ rest) := by
  cases segs with
  | nil => exact ⟨[], by rw [slashed_singleton, List.append_nil]⟩
  | cons t segs => exact ⟨slashed (t :: segs), slashed_cons_cons s t segs⟩

theorem segments_slashed {segs : List (List Char)} (h : ∀ s ∈ segs, s ≠ [] ∧ '/' ∉ s) :
    segments (slashed segs) = segs := by
  induction segs with
  | nil => rfl
  | cons s segs ih =>
    obtain ⟨⟨hne, hs⟩, hsegs⟩ := List.forall_mem_cons.mp h
    cases segs with
    | nil => rw [slashed_singleton, segments_slash, segments_of_not_mem hne hs]
    | cons t segs =>
      have htail := ih hsegs
      rw [slashed, segments_slash] at htail
      rw [slashed_cons_cons, slashed, List.cons_append, segments_slash, segments_append_slash,
        htail, segments_of_not_mem hne hs]
      rfl

end ServiceContracts.Path
