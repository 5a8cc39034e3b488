import ServiceContracts.Proofs.Dependency.Spelled

/-!
# Versions with alternatives

A declared version is cut at its hyphens before it is cut at its bars. So a range behind the first
bars is found although it belongs to another alternative, and its upper end is all that counts.
Otherwise the first alternative counts, except that a hyphen which ends it, and so has no upper end,
leaves nothing of it.

* `HoldsRange`, `LacksUpperEnd` : what decides about the two alternatives;
* `cleanChars_of_holdsRange`, `cleanChars_of_not_holdsRange` : what is left of them;
* `clean_alternatives` : when that is the first alternative.
-/

namespace ServiceContracts.Dependency
open Text

variable {first rest : List Char}

/-- There is a hyphen in the text without the blanks at its end. -/
def HoldsRange (text : List Char) : Prop := hyphen <:+: dropEndWhile isBlank text

/-- The text is not blank, but behind its last hyphen it is. -/
def LacksUpperEnd (text : List Char) : Prop :=
  (∃ c ∈ text, isBlank c = false) ∧
    ∀ c ∈ Version.upperEnd (text.dropWhile isBlank), isBlank c = true

instance : DecidablePred HoldsRange := fun text =>
  inferInstanceAs (Decidable (hyphen <:+: dropEndWhile isBlank text))

instance : DecidablePred LacksUpperEnd := fun text =>
  decidable_of_iff (text.any (fun c => !isBlank c) = true ∧
    (Version.upperEnd (text.dropWhile isBlank)).all isBlank = true) (by simp [LacksUpperEnd])

/-! ## Behind the bars -/

/-- The bars are no blanks, so the alternatives are trimmed at the outside only. -/
theorem trimChars_append_bars (first rest : List Char) :
    trimChars (first ++ (bars ++ rest)) =
      first.dropWhile isBlank ++ (bars ++ dropEndWhile isBlank rest) := by
  have hfront : (first ++ (bars ++ rest)).dropWhile isBlank =
      first.dropWhile isBlank ++ (bars ++ rest) := by
    rw [List.dropWhile_append]
    split
    · next hnil =>
      rw [List.isEmpty_iff.mp hnil]
      rfl
    · rfl
  have hlast : ∀ c ∈ (first.dropWhile isBlank ++ bars).getLast?, isBlank c = false := by
    rw [List.getLast?_append]
    rintro _ ⟨⟩
    decide
  rw [trimChars, dropEndsWhile, hfront, ← List.append_assoc, dropEndWhile_append hlast,
    List.append_assoc]

/-- The search for hyphens goes on behind the bars. -/
theorem upperEnd_append_bars (front back : List Char) :
    Version.upperEnd (front ++ (bars ++ back)) =
      Version.upperEndFrom (Version.upperEnd front ++ (bars ++ back)) back := by
  have hbar : '|' ∉ hyphen := by decide
  have hstart : ¬ hyphen <+: '|' :: back := fun hp => by simp [hyphen] at hp
  have hsearch := upperEndFrom_append_sep hbar front front ('|' :: back)
  rwa [upperEndFrom_cons hstart] at hsearch

/-- A range behind the bars has the last hyphen. -/
theorem cleanChars_of_holdsRange (h : HoldsRange rest) (first : List Char) :
    Version.cleanChars (first ++ (bars ++ rest)) =
      Version.cleanChars (Version.upperEnd (dropEndWhile isBlank rest)) := by
  obtain ⟨-, -, hnone⟩ := exists_lower_of_isInfix h (dropEndWhile isBlank rest)
  rw [← Version.upperEnd] at hnone
  set upper := Version.upperEnd (dropEndWhile isBlank rest)
  have hleft : Version.upperEnd (trimChars (first ++ (bars ++ rest))) = upper := by
    rw [trimChars_append_bars, upperEnd_append_bars]
    exact upperEndFrom_of_isInfix h _ _
  have htrim : trimChars upper = upper.dropWhile isBlank := by
    have hsuffix : upper <:+ dropEndWhile isBlank rest := upperEnd_isSuffix _
    exact trimChars_of_getLast? fun c hc =>
      getLast?_dropEndWhile isBlank rest c (mem_getLast?_of_isSuffix hsuffix hc)
  have hright : Version.upperEnd (trimChars upper) = upper.dropWhile isBlank := by
    rw [htrim]
    exact upperEnd_of_not_isInfix fun hi => hnone (hi.trans (List.dropWhile_suffix isBlank).isInfix)
  rw [cleanChars_eq, cleanChars_eq, hleft, hright, firstAlternative_dropWhile,
    withoutOperators_dropWhile]

/-- Without a range behind the bars they are cut off, and the blanks in front of them stay. -/
theorem cleanChars_of_not_holdsRange (h : ¬ HoldsRange rest) (hfirst : ¬ bars <:+: first ++ ['|']) :
    Version.cleanChars (first ++ (bars ++ rest)) =
      withoutOperators (Version.upperEnd (first.dropWhile isBlank)) := by
  obtain ⟨before, hbefore⟩ := (upperEnd_isSuffix _).trans (List.dropWhile_suffix isBlank (l := first))
  have hbars : ¬ bars <:+: Version.upperEnd (first.dropWhile isBlank) ++ ['|'] := fun hi => by
    rw [← hbefore, List.append_assoc] at hfirst
    exact hfirst (hi.trans (List.suffix_append before _).isInfix)
  rw [cleanChars_eq, trimChars_append_bars, upperEnd_append_bars, upperEndFrom_of_not_isInfix h,
    firstAlternative_append_bars hbars]

/-! ## In front of the bars -/

theorem cleanChars_of_not_isInfix (h : ¬ bars <:+: first) :
    Version.cleanChars first = withoutOperators (Version.upperEnd (trimChars first)) := by
  have hbars : ¬ bars <:+: Version.upperEnd (trimChars first) := fun hi =>
    h (hi.trans ((upperEnd_isSuffix _).isInfix.trans (trimChars_isInfix first)))
  rw [cleanChars_eq, firstAlternative_of_not_isInfix hbars]

/-- The upper end of a trimmed text ends like the text. -/
theorem exists_mem_upperEnd_trimChars (h : ∃ c ∈ first, isBlank c = false) :
    ∃ c ∈ Version.upperEnd (trimChars first), isBlank c = false := by
  obtain ⟨c, hc, hblank⟩ := h
  have hlast : ∀ d ∈ (trimChars first).getLast?, isBlank d = false :=
    getLast?_dropEndWhile isBlank _
  have hne : Version.upperEnd (trimChars first) ≠ [] :=
    upperEnd_ne_nil (List.ne_nil_of_mem (mem_trimChars hc hblank)) hlast
  exact ⟨_, List.getLast_mem hne, hlast _
    (mem_getLast?_of_isSuffix (upperEnd_isSuffix _) (List.getLast?_eq_some_getLast hne))⟩

/-- Blanks at the end only follow the upper end, unless they end the hyphen behind which it is
missing. -/
theorem upperEnd_dropWhile_cases (first : List Char) :
    (¬ LacksUpperEnd first ∧ ∃ blanks, (∀ c ∈ blanks, isBlank c = true) ∧
      Version.upperEnd (first.dropWhile isBlank) = Version.upperEnd (trimChars first) ++ blanks) ∨
    (LacksUpperEnd first ∧ '-' ∈ Version.upperEnd (trimChars first)) := by
  obtain ⟨blanks, hfirst, hblanks⟩ := exists_dropped isBlank (first.dropWhile isBlank)
  have hsplit : first.dropWhile isBlank = trimChars first ++ blanks := hfirst
  rcases upperEndFrom_append_blanks hblanks _ _ (List.suffix_refl (trimChars first)) with
    hkept | ⟨hblank, hdash⟩
  · rw [← hsplit, ← Version.upperEnd, ← Version.upperEnd] at hkept
    refine .inl ⟨?_, blanks, hblanks, hkept⟩
    rintro ⟨hsome, hall⟩
    obtain ⟨c, hc, hnone⟩ := exists_mem_upperEnd_trimChars hsome
    have hblank : isBlank c = true := hall c (hkept ▸ List.mem_append_left blanks hc)
    rw [hnone] at hblank
    cases hblank
  · rw [← hsplit] at hblank
    have hmem : '-' ∈ first :=
      (trimChars_isInfix first).mem ((upperEnd_isSuffix _).isInfix.mem hdash)
    exact .inr ⟨⟨⟨'-', hmem, by decide⟩, hblank⟩, hdash⟩

/-- The first alternative is reduced as it would be by itself. -/
theorem withoutOperators_upperEnd (h : ¬ bars <:+: first) (hupper : ¬ LacksUpperEnd first) :
    withoutOperators (Version.upperEnd (first.dropWhile isBlank)) = Version.cleanChars first := by
  rcases upperEnd_dropWhile_cases first with ⟨-, blanks, hblanks, hkept⟩ | ⟨hlacks, -⟩
  · rw [hkept, withoutOperators_append_blanks hblanks, cleanChars_of_not_isInfix h]
  · exact absurd hlacks hupper

/-- By itself it would keep the dash, which now ends the range. -/
theorem withoutOperators_of_lacksUpperEnd (h : ¬ bars <:+: first) (hupper : LacksUpperEnd first) :
    withoutOperators (Version.upperEnd (first.dropWhile isBlank)) = [] ∧
      '-' ∈ Version.cleanChars first := by
  rcases upperEnd_dropWhile_cases first with ⟨hnot, -⟩ | ⟨-, hdash⟩
  · exact absurd hupper hnot
  · rw [withoutOperators_of_blanks hupper.2, cleanChars_of_not_isInfix h]
    exact ⟨rfl, mem_withoutOperators hdash (by decide) (by decide)⟩

/-! ## Both sides -/

theorem dropEndWhile_append_of_ne_bar (h : first.getLast? ≠ some '|') (back : List Char) :
    dropEndWhile (· == '|') (first ++ back) = first ++ dropEndWhile (· == '|') back := by
  refine dropEndWhile_append (fun c hc => beq_eq_false_iff_ne.mpr ?_) back
  rintro rfl
  exact h hc

theorem dropEndWhile_bar (h : first.getLast? ≠ some '|') :
    dropEndWhile (· == '|') first = first := by
  simpa using dropEndWhile_append_of_ne_bar h []

theorem holdsRange_cons_bar : HoldsRange ('|' :: rest) ↔ HoldsRange rest := by
  have hlast : ∀ c ∈ ['|'].getLast?, isBlank c = false := by
    rintro _ ⟨⟩
    decide
  have hkept : dropEndWhile isBlank ('|' :: rest) = '|' :: dropEndWhile isBlank rest :=
    dropEndWhile_append hlast rest
  rw [HoldsRange, HoldsRange, hkept, List.infix_cons_iff, or_iff_right]
  intro hp
  simp [hyphen] at hp

/-- A bar at the end of the first alternative is already the first one of the bars. -/
theorem exists_behind (h : ¬ bars <:+: first) (rest : List Char) :
    ∃ behind, first ++ (bars ++ rest) = dropEndWhile (· == '|') first ++ (bars ++ behind) ∧
      ¬ bars <:+: dropEndWhile (· == '|') first ++ ['|'] ∧
      (HoldsRange behind ↔ HoldsRange rest) := by
  by_cases hlast : first.getLast? = some '|'
  · obtain ⟨front, rfl⟩ := List.getLast?_eq_some_iff.mp hlast
    have hfront : front.getLast? ≠ some '|' := fun hbar => by
      obtain ⟨start, rfl⟩ := List.getLast?_eq_some_iff.mp hbar
      exact h ⟨start, [], by simp [bars]⟩
    have hfirst : dropEndWhile (· == '|') (front ++ ['|']) = front := by
      rw [dropEndWhile_append_of_ne_bar hfront]
      exact List.append_nil front
    rw [hfirst]
    exact ⟨'|' :: rest, by simp [bars], h, holdsRange_cons_bar⟩
  · rw [dropEndWhile_bar hlast]
    refine ⟨rest, rfl, fun hi => ?_, Iff.rfl⟩
    rcases List.infix_concat_iff.mp hi with ⟨start, hstart⟩ | hi
    · have hfirst : start ++ ['|'] = first := by
        apply List.append_cancel_right
        rw [← hstart, List.append_assoc]
        rfl
      exact hlast (by rw [← hfirst, List.getLast?_concat])
    · exact h hi

/-- A declared version with alternatives, cut at its first bars, is reduced to its first one, but
for two cases. With a range behind the bars it is reduced to the upper end of that; and if behind
the hyphen at the end of the first alternative there are only blanks, nothing is left of it. The
version with which a declaration counts is always that of the reduced text. -/
theorem clean_alternatives (a rest : String) (ha : ¬ bars <:+: a.toList) :
    let first := dropEndWhile (· == '|') a.toList
    let upper := Version.upperEnd (dropEndWhile isBlank rest.toList)
    let spec := a ++ "||" ++ rest
    (a.toList.getLast? ≠ some '|' → String.ofList first = a) ∧
    (HoldsRange rest.toList →
      (∃ lower, dropEndWhile isBlank rest.toList = lower ++ (hyphen ++ upper)) ∧
      ¬ hyphen <:+: upper ∧ Version.clean spec = Version.clean (String.ofList upper)) ∧
    (¬ HoldsRange rest.toList → ¬ LacksUpperEnd first →
      Version.clean spec = Version.clean (String.ofList first)) ∧
    (¬ HoldsRange rest.toList → LacksUpperEnd first →
      Version.clean spec = "" ∧ '-' ∈ (Version.clean (String.ofList first)).toList) ∧
    version? (versionText spec) = version? (Version.clean spec) := by
  intro first upper spec
  have hspec : spec.toList = a.toList ++ (bars ++ rest.toList) := by
    simp [spec, bars, String.toList_append]
  obtain ⟨behind, hbehind, hbars, hrange⟩ := exists_behind ha rest.toList
  have hfirst : ¬ bars <:+: first := fun hi => hbars (hi.trans (List.prefix_append first _).isInfix)
  have hnone : ¬ HoldsRange rest.toList → Version.clean spec =
      String.ofList (withoutOperators (Version.upperEnd (first.dropWhile isBlank))) := fun h => by
    rw [Version.clean, hspec, hbehind, cleanChars_of_not_holdsRange (mt hrange.mp h) hbars]
  refine ⟨fun hlast => ?_, fun h => ?_, fun h hupper => ?_, fun h hupper => ?_,
    version?_versionText spec⟩
  · rw [show first = a.toList from dropEndWhile_bar hlast, String.ofList_toList]
  · obtain ⟨lower, hlower, hlast⟩ := exists_lower_of_isInfix h (dropEndWhile isBlank rest.toList)
    refine ⟨⟨lower, hlower⟩, hlast, ?_⟩
    rw [Version.clean, hspec, cleanChars_of_holdsRange h, Version.clean, String.toList_ofList]
  · rw [hnone h, withoutOperators_upperEnd hfirst hupper, Version.clean, String.toList_ofList]
  · obtain ⟨hnil, hdash⟩ := withoutOperators_of_lacksUpperEnd hfirst hupper
    rw [hnone h, hnil, Version.clean, String.toList_ofList, String.toList_ofList]
    exact ⟨rfl, hdash⟩

/-- A first alternative that is a range, one with a bar at its end, and one without an upper end. -/
theorem clean_alternatives_first :
    Version.clean ("1.2 - ^1.8 " ++ "||" ++ " 2.0 -") = Version.clean "1.2 - ^1.8 " ∧
      Version.clean (">=1.2 |" ++ "||" ++ "2.0") = Version.clean ">=1.2 " ∧
      Version.clean ("1.2 - " ++ "||" ++ "2.0") = "" ∧
      Version.clean ("1.2 - 1.8" ++ "||" ++ "^2.0 - ^3.0") = Version.clean "^3.0" := by
  obtain ⟨hself, -, hfirst, -⟩ := clean_alternatives "1.2 - ^1.8 " " 2.0 -" (by decide +kernel)
  obtain ⟨-, -, hbar, -⟩ := clean_alternatives ">=1.2 |" "2.0" (by decide +kernel)
  obtain ⟨-, -, -, hlacks, -⟩ := clean_alternatives "1.2 - " "2.0" (by decide +kernel)
  obtain ⟨-, hrange, -⟩ := clean_alternatives "1.2 - 1.8" "^2.0 - ^3.0" (by decide +kernel)
  refine ⟨?_, ?_, ?_, ?_⟩
  · exact (hfirst (by decide +kernel) (by decide +kernel)).trans
      (congrArg Version.clean (hself (by decide +kernel)))
  · exact hbar (by decide +kernel) (by decide +kernel)
  · exact (hlacks (by decide +kernel) (by decide +kernel)).1
  · exact (hrange (by decide +kernel)).2.2

/-- A range in the second alternative wins, and changes the grade of a conflict. -/
theorem clean_alternatives_range :
    ¬ bars <:+: "1.0.0 ".toList ∧
      Version.clean ("1.0.0 " ++ "||" ++ " 2.0.0 - 3.0.0") = "3.0.0" ∧
      Version.clean "1.0.0 " = "1.0.0" ∧
      (conflicts [⟨"pkg", "1.0.0", "web", ""⟩,
        ⟨"pkg", "1.0.0 " ++ "||" ++ " 2.0.0 - 3.0.0", "api", ""⟩]).toOption.map
          (List.map Conflict.severity) = some [.critical] ∧
      (conflicts [⟨"pkg", "1.0.0", "web", ""⟩, ⟨"pkg", "1.0.0 ", "api", ""⟩]).toOption = some [] := by
  decide +kernel

end ServiceContracts.Dependency
