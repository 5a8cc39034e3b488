import ServiceContracts.Proofs.Dependency.Chosen
import ServiceContracts.Proofs.Dependency.Clean

/-!
# Texts that spell a version

Such a text starts with a digit and holds neither blanks nor bars, so nothing is cut off it. Hence
the version that a declaration counts with is the one of the reduced text, even where nothing is
left and the text is kept as it was declared.

* `component_dot`, `component_of_head?`, `digits?_append` : a text is taken apart at its dots and at
  the end of its numbers;
* `parts_of_digits?`, `not_mem_of_digits?`, `exists_decimal_of_digits?` : the characters of such a
  text;
* `cleanChars_of_digits?` : it is left alone;
* `version?_versionText` : the version of a declaration.
-/

namespace ServiceContracts.Dependency
open Text

variable {c : Char} {cs : List Char} {digits : List Char × List Char × List Char}

theorem mem_dropLineFeed (hc : c ∈ cs) (hfeed : c ≠ '\n') : c ∈ Version.dropLineFeed cs := by
  rw [Version.dropLineFeed]
  split
  · next hlast =>
    obtain ⟨front, rfl⟩ := List.getLast?_eq_some_iff.mp hlast
    rw [List.dropLast_concat]
    exact (List.mem_append.mp hc).resolve_right fun h => hfeed (List.mem_singleton.mp h)
  · exact hc

theorem mem_component (hc : c ∈ cs) (hdot : c ≠ '.') (hdecimal : isDecimal c = false) :
    c ∈ (Version.component cs).2 := by
  rw [Version.component.eq_def]
  split
  · next ds =>
    split
    · exact hc
    · exact mem_dropWhile ((List.mem_cons.mp hc).resolve_left hdot) hdecimal
  · exact hc

theorem isSuffixChar_of_isSuffix (h : Version.isSuffix cs = true) (hc : c ∈ cs) :
    Version.isSuffixChar c = true := by
  cases cs with
  | nil => cases hc
  | cons d cs =>
    rw [Version.isSuffix, Bool.and_eq_true, List.all_eq_true] at h
    rcases List.mem_cons.mp hc with rfl | hc
    · rw [Bool.or_eq_true, beq_iff_eq, beq_iff_eq] at h
      obtain ⟨rfl | rfl, -⟩ := h <;> decide
    · exact h.2 c hc

section Components
variable {major minor patch middle rest : List Char}

theorem component_dot (hminor : ∀ c ∈ minor, isDecimal c = true) (hne : minor ≠ [])
    (hrest : ∀ c ∈ rest.head?, isDecimal c = false) :
    Version.component ('.' :: (minor ++ rest)) = (minor, rest) := by
  obtain ⟨htake, hdrop⟩ := span_append hminor hrest
  rw [Version.component, htake, hdrop, if_neg (by simpa using hne)]

theorem component_of_head? (h : cs.head? ≠ some '.') : Version.component cs = ([], cs) := by
  rw [Version.component.eq_def]
  split
  · exact absurd rfl h
  · rfl

/-- The major number ends where something else follows, and two more components are taken off it. -/
theorem digits?_append (hmajor : ∀ c ∈ major, isDecimal c = true) (hne : major ≠ [])
    (hrest : ∀ c ∈ rest.head?, isDecimal c = false) (hfeed : '\n' ∉ major ++ rest)
    (hminor : Version.component rest = (minor, middle))
    (hpatch : Version.component middle = (patch, cs)) (hsuffix : Version.isSuffix cs = true) :
    Version.digits? (major ++ rest) = some (major, minor, patch) := by
  obtain ⟨htake, hdrop⟩ := span_append hmajor hrest
  have hkept : Version.dropLineFeed (major ++ rest) = major ++ rest :=
    if_neg fun hlast => hfeed (List.mem_of_mem_getLast? hlast)
  simp only [Version.digits?, hkept, htake, hdrop, hminor, hpatch, hsuffix]
  rw [if_neg (by simpa using hne)]

end Components

/-- A text that spells a version starts with a number, and ends with a suffix or nothing. -/
theorem parts_of_digits? (h : Version.digits? cs = some digits) :
    (Version.dropLineFeed cs).takeWhile isDecimal ≠ [] ∧
      Version.isSuffix (Version.component (Version.component
        ((Version.dropLineFeed cs).dropWhile isDecimal)).2).2 = true := by
  simp only [Version.digits?] at h
  split at h
  · cases h
  · next hparts =>
    rw [Bool.or_eq_true, not_or, List.isEmpty_iff, Bool.not_eq_true', Bool.not_eq_false] at hparts
    exact hparts

/-- Only digits, dots and the characters of a suffix occur in a text that spells a version. -/
theorem not_mem_of_digits? (h : Version.digits? cs = some digits) (hdot : c ≠ '.')
    (hfeed : c ≠ '\n') (hdecimal : isDecimal c = false) (hsuffix : Version.isSuffixChar c = false) :
    c ∉ cs := by
  intro hc
  have hrest := mem_component (mem_component
    (mem_dropWhile (mem_dropLineFeed hc hfeed) hdecimal) hdot hdecimal) hdot hdecimal
  rw [isSuffixChar_of_isSuffix (parts_of_digits? h).2 hrest] at hsuffix
  cases hsuffix

theorem dropLineFeed_isPrefix (cs : List Char) : Version.dropLineFeed cs <+: cs := by
  rw [Version.dropLineFeed]
  split
  · exact List.dropLast_prefix cs
  · exact List.prefix_rfl

theorem exists_decimal_of_digits? (h : Version.digits? cs = some digits) :
    ∃ c ∈ cs.head?, isDecimal c = true := by
  obtain ⟨rest, hrest⟩ := (List.takeWhile_prefix isDecimal).trans (dropLineFeed_isPrefix cs)
  obtain ⟨d, major, hmajor⟩ := List.exists_cons_of_ne_nil (parts_of_digits? h).1
  have hd : isDecimal d = true := List.mem_takeWhile_imp (hmajor ▸ List.mem_cons_self)
  rw [hmajor, List.cons_append] at hrest
  rw [← hrest]
  exact ⟨d, rfl, hd⟩

theorem isBlank_of_isDecimal (h : isDecimal c = true) : isBlank c = false :=
  isBlank_of_class (by decide +kernel) h

theorem isOperator_of_isDecimal (h : isDecimal c = true) : Version.isOperator c = false := by
  have hnone : ['^', '~', '>', '=', '<', '*', 'v'].any isDecimal = false := by decide +kernel
  rw [Version.isOperator, decide_eq_false_iff_not]
  exact fun hc => List.any_eq_false.mp hnone c hc h

/-- What spells a version is left alone. -/
theorem cleanChars_of_digits? (h : Version.digits? (trimChars cs) = some digits) :
    Version.cleanChars cs = trimChars cs := by
  have hblank : ' ' ∉ trimChars cs :=
    not_mem_of_digits? h (by decide) (by decide) (by decide +kernel) (by decide)
  have hbar : '|' ∉ trimChars cs :=
    not_mem_of_digits? h (by decide) (by decide) (by decide +kernel) (by decide)
  have hupper : Version.upperEnd (trimChars cs) = trimChars cs :=
    upperEnd_of_not_isInfix fun hi => hblank (hi.mem (by simp [hyphen]))
  have hfirst : Version.firstAlternative (trimChars cs) = trimChars cs :=
    firstAlternative_of_not_isInfix fun hi => hbar (hi.mem (by simp [bars]))
  obtain ⟨d, hd, hdecimal⟩ := exists_decimal_of_digits? h
  have hdrop : (trimChars cs).dropWhile Version.isOperator = trimChars cs :=
    dropWhile_of_head? fun c hc => isOperator_of_isDecimal (Option.mem_unique hc hd ▸ hdecimal)
  rw [cleanChars_eq, hupper, hfirst, withoutOperators, trimChars_trimChars, hdrop,
    trimChars_trimChars]

theorem version?_eq_none {text : String} (h : Version.digits? text.toList = none) :
    version? text = none := by
  rw [version?, Version.read, Version.readChars, h]
  rfl

/-- A declaration counts with the version of its reduced text. -/
theorem version?_versionText (spec : String) :
    version? (versionText spec) = version? (Version.clean spec) := by
  rw [versionText]
  split
  · next hempty =>
    have hclean : Version.clean spec = "" := String.isEmpty_iff.mp hempty
    have hnone : Version.digits? (trimChars spec.toList) = none := by
      by_contra hsome
      obtain ⟨digits, hdigits⟩ := Option.ne_none_iff_exists'.mp hsome
      obtain ⟨d, hd, -⟩ := exists_decimal_of_digits? hdigits
      have hnil : trimChars spec.toList = [] := by
        rw [← cleanChars_of_digits? hdigits]
        exact String.ofList_eq_empty_iff.mp hclean
      simp [hnil] at hd
    rw [version?_eq_none (by rwa [trim, String.toList_ofList]), hclean]
    rfl
  · rfl

end ServiceContracts.Dependency
