import Mathlib.Data.List.Chain
import ServiceContracts.Path
import ServiceContracts.Proofs.Interpolation.Expand
import ServiceContracts.Proofs.Text.Cut

/-!
# Canonical paths

Cleaning makes a path canonical. A canonical path need not be settled: the cut at a query may bare
a blank at the end, and the name of a parameter may lend its dollar sign to a brace behind it. What
is canonical and settled is left alone by cleaning, and nothing else is.

* `IsCanonical`, `isCanonical_cleanChars` : what every cleaned path is;
* `IsTidy`, `isTidy_tidy` : what it is for its slashes alone;
* `IsSettled` : what it is if there is nothing to trim and nothing to expand;
* `length_cleanChars_le`, `count_cleanChars`, `count_cleanChars_lt` : what cleaning takes from any
  path;
* `cleanChars_eq_self_iff` : the paths that cleaning leaves alone;
* `cleanChars_ne_of_sublist` : no path is cleaned from a much shorter part of itself.
-/

namespace ServiceContracts.Path
open Text Interpolation

/-- No slash follows a slash. -/
def IsSingle (path : List Char) : Prop := path.IsChain fun c d => c = '/' → d ≠ '/'

/-- A query mark follows nothing but a backslash. -/
def IsEscaped (path : List Char) : Prop := path.IsChain fun c d => d = '?' → c = '\\'

/-- A path as cleaning leaves it. -/
structure IsCanonical (path : List Char) : Prop where
  front : path.head? = some '/'
  single : IsSingle path
  ended : path.getLast? = some '/' → path = ['/']
  fragment : '#' ∉ path
  query : IsEscaped path

/-- There is nothing to trim at the end of the path and nothing in it to expand. -/
structure IsSettled (path : List Char) : Prop where
  trimmed : ∀ c ∈ path.getLast?, isBlank c = false
  expanded : ¬ HoldsInterpolation path

section Steps
variable {path : List Char}

/-! ## Query and fragment -/

theorem beforeQueryFrom_isPrefix (escaped : Bool) (path : List Char) :
    beforeQueryFrom escaped path <+: path := by
  induction path generalizing escaped with
  | nil => exact List.prefix_refl []
  | cons c path ih =>
    rw [beforeQueryFrom]
    split
    · exact List.nil_prefix
    · exact List.cons_prefix_cons.mpr ⟨rfl, ih _⟩

/-- Query and fragment are cut off together. -/
def cut (path : List Char) : List Char := before '#' (beforeQuery path)

theorem cut_isPrefix (path : List Char) : cut path <+: path :=
  (List.takeWhile_prefix _).trans (beforeQueryFrom_isPrefix false path)

theorem before_beforeQueryFrom_append (escaped : Bool) (cs rest : List Char) :
    before '#' (beforeQueryFrom escaped (cs ++ rest)) <+:
      before '#' (beforeQueryFrom escaped cs) ++ rest := by
  induction cs generalizing escaped with
  | nil => exact (List.takeWhile_prefix _).trans (beforeQueryFrom_isPrefix escaped rest)
  | cons c cs ih =>
    rw [List.cons_append, beforeQueryFrom, beforeQueryFrom]
    split
    · exact List.nil_prefix
    · by_cases hc : c = '#'
      · rw [before, List.takeWhile_cons_of_neg (by simpa using hc)]
        exact List.nil_prefix
      · rw [before, before, List.takeWhile_cons_of_pos (by simpa using hc),
          List.takeWhile_cons_of_pos (by simpa using hc)]
        exact List.cons_prefix_cons.mpr ⟨rfl, ih _⟩

/-- What follows a text is cut off with it, or adds no more than itself. -/
theorem cut_append_isPrefix (cs rest : List Char) : cut (cs ++ rest) <+: cut cs ++ rest :=
  before_beforeQueryFrom_append false cs rest

/-- The character in front of the text counts, so that the induction goes through. -/
theorem isEscaped_cons_beforeQueryFrom (c : Char) (path : List Char) :
    IsEscaped (c :: beforeQueryFrom (c == '\\') path) := by
  induction path generalizing c with
  | nil => exact .singleton c
  | cons d path ih =>
    rw [beforeQueryFrom]
    split
    · exact .singleton c
    · next hkept =>
      have hd : d = '?' → c = '\\' := by simpa using hkept
      exact (ih d).cons_cons hd

theorem isEscaped_cons_cut (path : List Char) : IsEscaped ('/' :: cut path) :=
  List.IsChain.prefix (isEscaped_cons_beforeQueryFrom '/' path)
    (List.cons_prefix_cons.mpr ⟨rfl, List.takeWhile_prefix _⟩)

theorem not_mem_cut (path : List Char) : '#' ∉ cut path := by
  intro h
  have := List.mem_takeWhile_imp h
  simp at this

theorem beforeQueryFrom_eq_self {c : Char} (h : IsEscaped (c :: path)) :
    beforeQueryFrom (c == '\\') path = path := by
  induction path generalizing c with
  | nil => rfl
  | cons d path ih =>
    obtain ⟨hd, hpath⟩ := List.isChain_cons_cons.mp h
    rw [beforeQueryFrom, if_neg (by simpa using hd), ih hpath]

/-! ## Slashes -/

theorem head?_collapse (path : List Char) : (collapse path).head? = path.head? := by
  induction path with
  | nil => rfl
  | cons c path ih =>
    rw [collapse]
    split
    · next h => rw [ih, h.1, h.2, List.head?_cons]
    · rfl

theorem collapse_sublist (path : List Char) : (collapse path).Sublist path := by
  induction path with
  | nil => exact .slnil
  | cons c path ih =>
    rw [collapse]
    split
    · exact ih.cons c
    · exact ih.cons_cons c

/-- What holds between neighbours holds after a slash is left out in front of another one. -/
theorem isChain_collapse {R : Char → Char → Prop} (h : path.IsChain R) :
    (collapse path).IsChain R := by
  induction path with
  | nil => exact .nil
  | cons c path ih =>
    obtain ⟨hfirst, hpath⟩ := List.isChain_cons.mp h
    rw [collapse]
    split
    · exact ih hpath
    · rw [← head?_collapse] at hfirst
      exact (ih hpath).cons hfirst

theorem isSingle_collapse (path : List Char) : IsSingle (collapse path) := by
  induction path with
  | nil => exact .nil
  | cons c path ih =>
    rw [collapse]
    split
    · exact ih
    · next hkept =>
      refine ih.cons fun d hd hc hslash => hkept ⟨hc, ?_⟩
      rw [← head?_collapse, hd, hslash]

theorem collapse_eq_self (h : IsSingle path) : collapse path = path := by
  induction path with
  | nil => rfl
  | cons c path ih =>
    obtain ⟨hfirst, hpath⟩ := List.isChain_cons.mp h
    rw [collapse, if_neg fun hc => hfirst '/' hc.2 hc.1 rfl, ih hpath]

/-- A path without slashes at its end, or the root. -/
theorem tidy_cases (path : List Char) :
    tidy path = ['/'] ∨ tidy path <+: collapse path ∧ tidy path ≠ [] ∧
      (tidy path).getLast? ≠ some '/' := by
  rw [tidy]
  split
  · exact .inl rfl
  · next hne =>
    refine .inr ⟨List.rdropWhile_prefix _ _, hne, fun hlast => ?_⟩
    have := List.rdropWhile_last_not (· == '/') (collapse path) hne
    rw [List.getLast?_eq_some_getLast hne, Option.some_inj] at hlast
    exact this (beq_iff_eq.mpr hlast)

/-- A path with its slashes in order. -/
structure IsTidy (path : List Char) : Prop where
  front : path.head? = some '/'
  single : IsSingle path
  ended : path.getLast? = some '/' → path = ['/']

theorem isTidy_tidy (hroot : path.head? = some '/') : IsTidy (tidy path) := by
  rcases tidy_cases path with h | ⟨hfront, hne, hlast⟩
  · rw [h]
    exact ⟨rfl, .singleton _, fun _ => rfl⟩
  · refine ⟨?_, List.IsChain.prefix (isSingle_collapse path) hfront, fun h => absurd h hlast⟩
    obtain ⟨rest, hrest⟩ := hfront
    rw [← head?_collapse, ← hrest, List.head?_append_of_ne_nil _ hne] at hroot
    exact hroot

theorem tidy_eq_self (hsingle : IsSingle path) (hne : path ≠ [])
    (hend : path.getLast? = some '/' → path = ['/']) : tidy path = path := by
  rw [tidy, collapse_eq_self hsingle]
  by_cases hroot : path = ['/']
  · rw [hroot]
    rfl
  · have hkept : dropEndWhile (· == '/') path = path := by
      rw [dropEndWhile_eq_rdropWhile, List.rdropWhile_eq_self_iff]
      intro hne hlast
      rw [List.getLast?_eq_some_getLast hne, Option.some_inj] at hend
      exact hroot (hend (beq_iff_eq.mp hlast))
    rw [hkept]
    cases path with
    | nil => exact absurd rfl hne
    | cons => rfl

theorem length_tidy_le (h : path ≠ []) : (tidy path).length ≤ path.length := by
  rcases tidy_cases path with hroot | ⟨hfront, -⟩
  · rw [hroot]
    exact List.length_pos_of_ne_nil h
  · exact hfront.length_le.trans (collapse_sublist path).length_le

theorem count_collapse {c : Char} (hc : c ≠ '/') (path : List Char) :
    (collapse path).count c = path.count c := by
  induction path with
  | nil => rfl
  | cons d path ih =>
    rw [collapse]
    split
    · next h => rw [ih, h.1, List.count_cons_of_ne (Ne.symm hc)]
    · rw [List.count_cons, List.count_cons, ih]

theorem count_tidy {c : Char} (hc : c ≠ '/') (path : List Char) :
    (tidy path).count c = path.count c := by
  obtain ⟨slashes, hslashes, hall⟩ := exists_dropped (· == '/') (collapse path)
  have hnone : slashes.count c = 0 := by
    refine List.count_eq_zero_of_not_mem fun hmem => hc ?_
    simpa using hall c hmem
  have hkept : (dropEndWhile (· == '/') (collapse path)).count c = path.count c := by
    rw [← count_collapse hc path, hslashes, List.count_append, hnone, ← hslashes, Nat.add_zero]
  rw [tidy]
  split
  · next h =>
    rw [← hkept, h]
    simp [Ne.symm hc]
  · exact hkept

theorem head?_rooted (path : List Char) : (rooted path).head? = some '/' := by
  rw [rooted]
  split
  · assumption
  · rfl

theorem rooted_ne_nil (path : List Char) : rooted path ≠ [] := by
  intro h
  have := head?_rooted path
  rw [h] at this
  cases this

theorem count_rooted {c : Char} (hc : c ≠ '/') (path : List Char) :
    (rooted path).count c = path.count c := by
  rw [rooted]
  split
  · rfl
  · exact List.count_cons_of_ne (Ne.symm hc)

theorem length_rooted_le (path : List Char) : (rooted path).length ≤ path.length + 1 := by
  rw [rooted]
  split
  · exact Nat.le_succ _
  · exact Nat.le_refl _

/-- A shorter path is not longer for its slash in front. -/
theorem length_rooted_le_of_isPrefix {front : List Char} (h : front <+: path) :
    (rooted front).length ≤ (rooted path).length := by
  have hlength := h.length_le
  cases front with
  | nil => exact List.length_pos_of_ne_nil (rooted_ne_nil path)
  | cons c front =>
    obtain ⟨rest, rfl⟩ := h
    rw [rooted, rooted, List.cons_append, List.head?_cons, List.head?_cons]
    split
    · exact hlength
    · exact Nat.succ_le_succ hlength

end Steps

/-! ## What cleaning gives -/

section Clean
variable {path : List Char}

theorem cleanChars_eq_tidy (path : List Char) :
    cleanChars path = tidy (rooted (cut (expand (trimChars path)))) := rfl

theorem isEscaped_rooted_cut (path : List Char) : IsEscaped (rooted (cut path)) := by
  have h := isEscaped_cons_cut path
  rw [rooted]
  split
  · exact h.tail
  · exact h

theorem not_mem_rooted_cut (path : List Char) : '#' ∉ rooted (cut path) := by
  rw [rooted]
  split
  · exact not_mem_cut path
  · simpa using not_mem_cut path

theorem isCanonical_tidy (hroot : path.head? = some '/') (hquery : IsEscaped path)
    (hfragment : '#' ∉ path) : IsCanonical (tidy path) := by
  obtain ⟨hfirst, hsingle, hended⟩ := isTidy_tidy hroot
  rcases tidy_cases path with h | ⟨hfront, -, -⟩
  · rw [h]
    exact ⟨rfl, .singleton _, fun _ => rfl, by decide, .singleton _⟩
  · refine ⟨hfirst, hsingle, hended, fun h => hfragment ?_,
      List.IsChain.prefix (isChain_collapse hquery) hfront⟩
    exact (hfront.sublist.trans (collapse_sublist path)).subset h

/-- Every cleaned path is canonical. -/
theorem isCanonical_cleanChars (path : List Char) : IsCanonical (cleanChars path) :=
  isCanonical_tidy (head?_rooted _) (isEscaped_rooted_cut _) (not_mem_rooted_cut _)

theorem cleanChars_trimChars (path : List Char) :
    cleanChars (trimChars path) = cleanChars path := by
  rw [cleanChars, trimChars_trimChars]
  rfl

/-- Without interpolations a path gets no longer, but for a slash in front. -/
theorem length_cleanChars_le (h : ¬ HoldsInterpolation (trimChars path)) :
    (cleanChars path).length ≤ (rooted (trimChars path)).length := by
  rw [cleanChars_eq_tidy, expand_of_not_holds h]
  exact (length_tidy_le (rooted_ne_nil _)).trans (length_rooted_le_of_isPrefix (cut_isPrefix _))

theorem count_cleanChars {c : Char} (hc : c ≠ '/') (path : List Char) :
    (cleanChars path).count c = (cut (expand (trimChars path))).count c := by
  rw [cleanChars_eq_tidy, count_tidy hc, count_rooted hc]

/-- An interpolation takes a closing brace with it. -/
theorem count_cleanChars_lt (h : HoldsInterpolation (trimChars path)) :
    (cleanChars path).count '}' < path.count '}' := by
  calc (cleanChars path).count '}'
      = (cut (expand (trimChars path))).count '}' := count_cleanChars (by decide) path
    _ ≤ (expand (trimChars path)).count '}' := (cut_isPrefix _).sublist.count_le _
    _ < (trimChars path).count '}' := count_expand_lt h
    _ ≤ path.count '}' := (trimChars_sublist path).count_le _

/-- A path is not cleaned from a part of itself that is shorter by more than the slash in front. The
length need not shrink where a parameter is written, but then a brace is lost. -/
theorem cleanChars_ne_of_sublist {part : List Char} (h : part.Sublist path)
    (hlength : part.length + 1 < path.length) : cleanChars part ≠ path := by
  rintro rfl
  by_cases hholds : HoldsInterpolation (trimChars part)
  · exact absurd (h.count_le '}') (Nat.not_le.mpr (count_cleanChars_lt hholds))
  · have hle := length_cleanChars_le hholds
    have hrooted := length_rooted_le (trimChars part)
    have htrim := (trimChars_sublist part).length_le
    omega

/-! ## What cleaning leaves alone -/

theorem IsCanonical.trimChars_eq (h : IsCanonical path) :
    trimChars path = dropEndWhile isBlank path := by
  apply trimChars_of_head?
  rw [h.front]
  rintro c ⟨⟩
  decide

theorem IsCanonical.trimChars_eq_self_iff (h : IsCanonical path) :
    trimChars path = path ↔ ∀ c ∈ path.getLast?, isBlank c = false := by
  rw [h.trimChars_eq, dropEndWhile_eq_rdropWhile, List.rdropWhile_eq_self_iff]
  constructor
  · intro hlast c hc
    obtain ⟨hne, rfl⟩ := List.mem_getLast?_eq_getLast hc
    simpa using hlast hne
  · intro hlast hne
    simpa using hlast _ (List.getLast?_eq_some_getLast hne)

/-- The slash in front stays when the end is trimmed. -/
theorem IsCanonical.rooted_trimChars (h : IsCanonical path) :
    rooted (trimChars path) = trimChars path := by
  obtain ⟨rest, rfl⟩ := List.head?_eq_some_iff.mp h.front
  have hslash : ∀ c ∈ ['/'].getLast?, isBlank c = false := by
    rintro c ⟨⟩
    decide
  have htrim : trimChars ('/' :: rest) = '/' :: dropEndWhile isBlank rest := by
    rw [h.trimChars_eq]
    exact dropEndWhile_append hslash rest
  rw [htrim, rooted, if_pos (List.head?_cons ..)]

theorem IsCanonical.cleanChars_eq_self (h : IsCanonical path) (hsettled : IsSettled path) :
    cleanChars path = path := by
  obtain ⟨rest, hrest⟩ := List.head?_eq_some_iff.mp h.front
  have hne : path ≠ [] := by simp [hrest]
  have hquery : beforeQuery path = path := by
    have hslash : IsEscaped ('/' :: path) := h.query.cons fun c hc hmark => by
      rw [h.front, Option.mem_some_iff] at hc
      rw [← hc] at hmark
      exact absurd hmark (by decide)
    exact beforeQueryFrom_eq_self hslash
  rw [cleanChars, h.trimChars_eq_self_iff.mpr hsettled.trimmed, expand_of_not_holds hsettled.expanded,
    hquery, before_of_not_mem h.fragment, rooted, if_pos h.front, tidy_eq_self h.single hne h.ended]

/-- What cleaning leaves alone had nothing to trim, or it were shorter, and nothing to expand, or it
had fewer braces. -/
theorem IsCanonical.isSettled (h : IsCanonical path) (hclean : cleanChars path = path) :
    IsSettled path := by
  have hholds : ¬ HoldsInterpolation (trimChars path) := by
    intro hholds
    have := count_cleanChars_lt hholds
    rw [hclean] at this
    exact Nat.lt_irrefl _ this
  have htrim : trimChars path = path := by
    have hlength := length_cleanChars_le hholds
    rw [hclean, h.rooted_trimChars] at hlength
    exact (trimChars_sublist path).eq_of_length_le hlength
  rw [htrim] at hholds
  exact ⟨h.trimChars_eq_self_iff.mp htrim, hholds⟩

/-- Cleaning leaves alone the paths that are canonical and settled, and no others. -/
theorem cleanChars_eq_self_iff : cleanChars path = path ↔ IsCanonical path ∧ IsSettled path := by
  constructor
  · intro h
    have hcanonical : IsCanonical path := h ▸ isCanonical_cleanChars path
    exact ⟨hcanonical, hcanonical.isSettled h⟩
  · rintro ⟨hcanonical, hsettled⟩
    exact hcanonical.cleanChars_eq_self hsettled

end Clean

end ServiceContracts.Path
