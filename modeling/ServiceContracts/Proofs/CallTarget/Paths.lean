import ServiceContracts.Proofs.CallTarget.Template
import ServiceContracts.Proofs.Path.Canonical

/-!
# Paths that are normalized again

The path of a target is canonical, so when it is read once more it is a path again, unless an
expression in it reads a variable. It stays the same just if it is settled as well.

* `isCanonical_path?` : the path of every target is canonical;
* `readTrimmed_of_slash`, `readTrimmed_of_lookup?` : what a path is read as;
* `exists_of_lookup?`, `added_sublist` : a variable takes the text in front of it away;
* `normalize_again_iff` : what is normalized once and for all.
-/

namespace ServiceContracts.CallTarget
open Text Interpolation ServiceContracts.Path

/-! ## The path of a target -/

/-- The path as the target spells it. -/
def path? : CallTarget → Option String
  | unknown path => path
  | relative path | absolute _ path => some path
  | envBased _ _ path => path

theorem path?_ofBase (name spelling rest : List Char) : (ofBase name spelling rest).path? =
    if rest.all isBlank then none else some (String.ofList (cleanChars rest)) := by
  rw [ofBase]
  split
  · rfl
  · rfl

/-- The path, if there is one, is canonical. -/
def HasCanonicalPath (target : CallTarget) : Prop :=
  ∀ path ∈ target.path?, IsCanonical path.toList

theorem hasCanonicalPath_ofList {path : List Char} (h : IsCanonical path) :
    ∀ p ∈ some (String.ofList path), IsCanonical p.toList := by
  rintro _ ⟨⟩
  rwa [String.toList_ofList]

theorem hasCanonicalPath_ofBase (name spelling rest : List Char) :
    (ofBase name spelling rest).HasCanonicalPath := by
  rw [HasCanonicalPath, path?_ofBase]
  split
  · exact fun path hpath => by cases hpath
  · exact hasCanonicalPath_ofList (isCanonical_cleanChars rest)

theorem hasCanonicalPath_ofAuthority (url : List Char) : (ofAuthority url).HasCanonicalPath := by
  rw [ofAuthority]
  split
  · exact hasCanonicalPath_ofBase _ _ _
  · exact hasCanonicalPath_ofList (isCanonical_cleanChars _)

theorem hasCanonicalPath_unknown : (unknown none).HasCanonicalPath :=
  fun path hpath => by cases hpath

theorem hasCanonicalPath_readTrimmed (url : List Char) : (readTrimmed url).HasCanonicalPath := by
  rw [readTrimmed]
  split
  · exact hasCanonicalPath_unknown
  split
  · exact hasCanonicalPath_ofBase _ _ _
  split
  · exact hasCanonicalPath_ofBase _ _ _
  split
  · exact hasCanonicalPath_ofBase _ _ _
  split
  · exact hasCanonicalPath_unknown
  split
  · exact hasCanonicalPath_ofAuthority _
  · exact hasCanonicalPath_ofList (isCanonical_cleanChars url)

/-! ## Paths read as targets -/

section Read
variable {url name rest : List Char}

/-- What a variable is read from, and what follows it. -/
theorem exists_of_lookup? (h : lookup? url = some (name, rest)) :
    ∃ front, name ≠ [] ∧ url = front ++ ("process.env.".toList ++ (name ++ rest)) := by
  induction url with
  | nil => cases h
  | cons c url ih =>
    rw [lookup?] at h
    split at h
    · next found hstart =>
      rw [lookupAtStart?] at hstart
      split at hstart
      · next d text hafter =>
        split at hstart
        · cases hstart
          cases h
          refine ⟨[], List.cons_ne_nil _ _, ?_⟩
          rw [after?_eq_some_iff.mp hafter, List.cons_append, List.takeWhile_append_dropWhile,
            List.nil_append]
        · cases hstart
      · cases hstart
    · obtain ⟨front, hname, rfl⟩ := ih h
      exact ⟨c :: front, hname, rfl⟩

theorem added_sublist (text : List Char) : (added text).Sublist text := by
  rw [added]
  refine (dropEndsWhile_sublist isQuote _).trans ?_
  have htrim := trimChars_sublist text
  split
  · next operand hplus =>
    rw [hplus] at htrim
    exact ((trimChars_sublist operand).trans (List.sublist_cons_self _ _)).trans htrim
  · exact htrim

/-- The path behind a variable is made from a text that is a good deal shorter. -/
theorem length_added_lt (h : lookup? url = some (name, rest)) :
    (added rest).Sublist url ∧ (added rest).length + 12 < url.length := by
  obtain ⟨front, hname, rfl⟩ := exists_of_lookup? h
  have hadded := added_sublist rest
  have hpos := List.length_pos_of_ne_nil hname
  refine ⟨hadded.trans ?_, ?_⟩
  · rw [← List.append_assoc, ← List.append_assoc]
    exact List.sublist_append_right _ _
  · have hmark : "process.env.".toList.length = 12 := rfl
    have := hadded.length_le
    simp only [List.length_append, hmark]
    omega

theorem readTrimmed_of_lookup? {c : Char} (hfront : url.head? = some c) (hmark : c ≠ 'E')
    (hdollar : c ≠ '$') (h : lookup? url = some (name, rest)) :
    readTrimmed url = ofBase name ("process.env.".toList ++ name) (added rest) := by
  obtain ⟨cs, rfl⟩ := List.head?_eq_some_iff.mp hfront
  have hsentinel : after? sentinel (c :: cs) = none := by
    apply after?_eq_none
    rintro ⟨back, hback⟩
    exact hmark (List.cons.inj hback).1.symm
  have hstart : atStart? (c :: cs) = none := atStart?_of_ne hdollar cs
  rw [readTrimmed, hsentinel, hstart, h]
  rfl

theorem readTrimmed_of_slash (hfront : url.head? = some '/') (hsingle : IsSingle url)
    (hread : ¬ ReadsVariable url) :
    readTrimmed url = relative (String.ofList (cleanChars url)) := by
  obtain ⟨path, rfl⟩ := List.head?_eq_some_iff.mp hfront
  have hpath : path.head? ≠ some '/' := fun h => hsingle.rel_head? h rfl rfl
  have hslashes : after? "//".toList ('/' :: path) = none := by
    show after? ['/'] path = none
    exact after?_of_head?_ne hpath
  exact readTrimmed_path hfront hslashes hread

end Read

end ServiceContracts.CallTarget

namespace ServiceContracts.Boundary
open Text Interpolation ServiceContracts.Path CallTarget

section Again
variable {b : Boundary} {raw path : String}

/-- A path is the one of the target; an internal base alone has the root. -/
theorem path?_cases {n : Normalized} (h : n.path? = some path) :
    n.target.path? = some path ∨ path = "/" := by
  rw [Normalized.path?] at h
  split at h
  · next htarget => exact .inl (by rw [htarget]; exact h)
  · next htarget => exact .inl (by rw [htarget]; exact h)
  · next htarget => exact .inl (by rw [htarget]; exact h)
  · next spelled htarget =>
    rw [htarget]
    split at h
    · cases spelled with
      | none => exact .inr (Option.some_inj.mp h).symm
      | some => exact .inl h
    · exact .inl h

theorem isCanonical_path? (h : (b.normalize raw).path? = some path) : IsCanonical path.toList := by
  rcases path?_cases h with htarget | rfl
  · exact hasCanonicalPath_readTrimmed _ path htarget
  · exact isCanonical_cleanChars []

theorem eq_toList_of_ofList {cs : List Char} (h : some (String.ofList cs) = some path) :
    cs = path.toList := by
  rw [← Option.some_inj.mp h, String.toList_ofList]

theorem isCanonical_trimChars {path : List Char} (h : IsCanonical path) :
    (trimChars path).head? = some '/' ∧ IsSingle (trimChars path) := by
  constructor
  · rw [← h.rooted_trimChars]
    exact head?_rooted _
  · rw [h.trimChars_eq]
    exact List.IsChain.prefix h.single (List.rdropWhile_prefix _ _)

/-- A path that is settled and reads no variable is normalized to itself. -/
theorem normalize_of_isSettled (h : IsCanonical path.toList) (hsettled : IsSettled path.toList)
    (hread : ¬ ReadsVariable path.toList) :
    b.normalize path = { raw := path, target := .relative path, standing := .internal } := by
  have htarget : CallTarget.read path = .relative path := by
    rw [CallTarget.read, h.trimChars_eq_self_iff.mpr hsettled.trimmed,
      readTrimmed_of_slash h.front h.single hread, h.cleanChars_eq_self hsettled,
      String.ofList_toList]
  rw [normalize, htarget]
  rfl

/-- A path that reads a variable is not normalized to itself: only what follows the variable is
left, which is shorter by the variable itself. -/
theorem not_readsVariable_of_path? (h : IsCanonical path.toList)
    (hpath : (b.normalize path).path? = some path) : ¬ ReadsVariable (trimChars path.toList) := by
  intro hread
  obtain ⟨⟨name, rest⟩, hlookup⟩ :=
    Option.ne_none_iff_exists'.mp fun hnone => lookup?_eq_none_iff.mp hnone hread
  obtain ⟨hadded, hlength⟩ := length_added_lt hlookup
  have htrim := trimChars_sublist path.toList
  have htarget : (b.normalize path).target =
      ofBase name ("process.env.".toList ++ name) (added rest) :=
    readTrimmed_of_lookup? (isCanonical_trimChars h).1 (by decide) (by decide) hlookup
  rcases path?_cases hpath with hsame | rfl
  · rw [htarget, path?_ofBase] at hsame
    split at hsame
    · cases hsame
    · have := htrim.length_le
      exact cleanChars_ne_of_sublist (hadded.trans htrim) (by omega) (eq_toList_of_ofList hsame)
  · have := htrim.length_le
    have hroot : "/".toList.length = 1 := rfl
    omega

/-- What is normalized again. -/
theorem isSettled_of_path? (h : IsCanonical path.toList)
    (hpath : (b.normalize path).path? = some path) :
    IsSettled path.toList ∧ ¬ ReadsVariable path.toList := by
  have hread := not_readsVariable_of_path? h hpath
  obtain ⟨hfront, hsingle⟩ := isCanonical_trimChars h
  have htarget : (b.normalize path).target = .relative (String.ofList (cleanChars path.toList)) := by
    rw [← cleanChars_trimChars]
    exact readTrimmed_of_slash hfront hsingle hread
  have hsettled : IsSettled path.toList := by
    rw [Normalized.path?, htarget] at hpath
    exact h.isSettled (eq_toList_of_ofList hpath)
  rw [h.trimChars_eq_self_iff.mpr hsettled.trimmed] at hread
  exact ⟨hsettled, hread⟩

end Again

/-- A path that cleaning gives is cleaned to itself just if it is settled, and the path of a target
inside the boundary is normalized to itself just if it reads no variable either. -/
theorem normalize_again_iff (b : Boundary) :
    (∀ path, Path.clean (Path.clean path) = Path.clean path ↔
      IsSettled (Path.clean path).toList) ∧
    ∀ raw path : String, (b.normalize raw).standing = .internal →
      (b.normalize raw).path? = some path →
      ((b.normalize path).standing = .internal ∧ (b.normalize path).path? = some path ↔
        IsSettled path.toList ∧ ¬ ReadsVariable path.toList) := by
  constructor
  · intro path
    have hcanonical := isCanonical_cleanChars path.toList
    rw [Path.clean, Path.clean, String.ofList_inj, String.toList_ofList, cleanChars_eq_self_iff]
    exact and_iff_right hcanonical
  · intro raw path _ hpath
    have hcanonical := isCanonical_path? hpath
    constructor
    · exact fun h => isSettled_of_path? hcanonical h.2
    · rintro ⟨hsettled, hread⟩
      rw [normalize_of_isSettled hcanonical hsettled hread]
      exact ⟨rfl, rfl⟩

/-- Query and trailing slash are gone, and the parameter has its name. -/
theorem normalize_again_iff_parameter :
    let b : Boundary := {}
    let raw := " /users/$\x7buserId\x7d/?page=2"
    let path := "/users/:userid"
    (b.normalize raw).standing = .internal ∧ (b.normalize raw).path? = some path ∧
      (b.normalize path).standing = .internal ∧ (b.normalize path).path? = some path := by
  intro b raw path
  have hstanding : (b.normalize raw).standing = .internal := by decide +kernel
  have hpath : (b.normalize raw).path? = some path := by decide +kernel
  have hlast : path.toList.getLast? = some 'd' := by decide +kernel
  have hsettled : IsSettled path.toList := by
    refine ⟨fun c hc => ?_, first?_eq_none_iff.mp (by decide +kernel)⟩
    obtain rfl : 'd' = c := Option.some.inj (hlast.symm.trans hc)
    decide
  have hread : ¬ ReadsVariable path.toList := lookup?_eq_none_iff.mp (by decide +kernel)
  exact ⟨hstanding, hpath,
    ((normalize_again_iff b).2 raw path hstanding hpath).mpr ⟨hsettled, hread⟩⟩

/-- A blank in front of a query, a name that ends in a dollar sign in front of a brace, and a
variable that is spelled in capitals: none of these paths is normalized to itself. -/
theorem normalize_again_unsettled :
    let b : Boundary := {}
    (Path.clean "/a ?x" = "/a " ∧ Path.clean "/a " = "/a") ∧
    ((b.normalize "/a ?x").standing = .internal ∧ (b.normalize "/a ?x").path? = some "/a " ∧
      (b.normalize "/a ").path? = some "/a") ∧
    (Path.clean "/$\x7ba$\x7d\x7bb\x7d" = "/:a$\x7bb\x7d" ∧
      Path.clean "/:a$\x7bb\x7d" = "/:a:b") ∧
    ((b.normalize "/$\x7bPROCESS.ENV.X\x7d").standing = .internal ∧
      (b.normalize "/$\x7bPROCESS.ENV.X\x7d").path? = some "/:process.env.x" ∧
      (b.normalize "/:process.env.x").standing = .unlisted) := by
  decide +kernel

end ServiceContracts.Boundary
