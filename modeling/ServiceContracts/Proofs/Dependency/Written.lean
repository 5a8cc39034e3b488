import ServiceContracts.Proofs.Dependency.Overlong
import ServiceContracts.Proofs.Dependency.Spelled
import ServiceContracts.Proofs.Number.Decimal

/-!
# Versions as they are written

A version is written with operators in front of it, up to three numbers and a suffix, and blanks may
stand around the operators and at the end. Whatever the operators, the blanks and the suffix,
reading the cleaned text gives the numbers back.

* `operators`, `SpellsVersion`, `IsLabel` : the operators, the numbers and the suffix;
* `isSuffix_iff` : a label is what may stand behind the numbers;
* `SpellsVersion.exists_digits?` : the numbers in front of a label are taken apart into their
  numerals;
* `cleanChars_append_core` : what is taken off around them;
* `read_clean_written` : the version that is written is read.
-/

namespace ServiceContracts.Dependency
open Number Text

variable {c : Char} {front marks between numbers label core back : List Char} {v : Version}

/-- The range operators. -/
def operators : List (List Char) :=
  ["^", "~", ">=", "<=", ">", "<", "=", "*", "v"].map String.toList

/-- The text is made of one, two or three numerals with dots between them, which are the components
of the version; missing ones are zero. -/
inductive SpellsVersion : List Char → Version → Prop
  | major {cs : List Char} {a : Nat} (hcs : IsNumeral cs a) :
      SpellsVersion cs { major := a, minor := 0, patch := 0 }
  | minor {cs ds : List Char} {a b : Nat} (hcs : IsNumeral cs a) (hds : IsNumeral ds b) :
      SpellsVersion (cs ++ '.' :: ds) { major := a, minor := b, patch := 0 }
  | patch {cs ds es : List Char} {a b c : Nat} (hcs : IsNumeral cs a) (hds : IsNumeral ds b)
      (hes : IsNumeral es c) :
      SpellsVersion (cs ++ '.' :: (ds ++ '.' :: es)) { major := a, minor := b, patch := c }

/-- Nothing, or a dash or a plus sign with letters, digits, dots, dashes and plus signs. -/
inductive IsLabel : List Char → Prop
  | nothing : IsLabel []
  | marked {mark : Char} {cs : List Char} (hmark : mark = '-' ∨ mark = '+')
      (hcs : ∀ c ∈ cs, isLetter c = true ∨ isDigit c = true ∨ c = '.' ∨ c = '-' ∨ c = '+') :
      IsLabel (mark :: cs)

/-! ## The characters of a written version -/

theorem isSuffixChar_iff : Version.isSuffixChar c = true ↔
    isLetter c = true ∨ isDigit c = true ∨ c = '.' ∨ c = '-' ∨ c = '+' := by
  simp only [Version.isSuffixChar, Bool.or_eq_true, beq_iff_eq, or_assoc]

/-- The labels are what may follow the numbers. -/
theorem isSuffix_iff : Version.isSuffix label = true ↔ IsLabel label := by
  have hmarked : ∀ mark cs, Version.isSuffix (mark :: cs) = true ↔ (mark = '-' ∨ mark = '+') ∧
      ∀ c ∈ cs, isLetter c = true ∨ isDigit c = true ∨ c = '.' ∨ c = '-' ∨ c = '+' := by
    intro mark cs
    simp only [Version.isSuffix, Bool.and_eq_true, Bool.or_eq_true, beq_iff_eq, List.all_eq_true,
      isSuffixChar_iff]
  constructor
  · intro h
    cases label with
    | nil => exact .nothing
    | cons mark cs =>
      obtain ⟨hmark, hcs⟩ := (hmarked mark cs).mp h
      exact .marked hmark hcs
  · rintro (_ | ⟨hmark, hcs⟩)
    · rfl
    · exact (hmarked _ _).mpr ⟨hmark, hcs⟩

theorem isBlank_of_isSuffixChar (h : Version.isSuffixChar c = true) : isBlank c = false :=
  isBlank_of_class (by decide +kernel) h

/-- A label starts with a mark that is neither a digit nor a dot. -/
theorem IsLabel.mem_head? (h : IsLabel label) : ∀ c ∈ label.head?, c = '-' ∨ c = '+' := by
  cases h with
  | nothing => simp
  | marked hmark => simpa using hmark

theorem IsLabel.isBlank (h : IsLabel label) : ∀ c ∈ label, isBlank c = false := fun _ hc =>
  isBlank_of_isSuffixChar (isSuffixChar_of_isSuffix (isSuffix_iff.mpr h) hc)

theorem IsLabel.component_eq (h : IsLabel label) : Version.component label = ([], label) := by
  refine component_of_head? fun hdot => ?_
  rcases h.mem_head? '.' hdot with hmark | hmark <;> cases hmark

theorem IsLabel.not_isDecimal (h : IsLabel label) : ∀ c ∈ label.head?, isDecimal c = false := by
  intro c hc
  rcases h.mem_head? c hc with rfl | rfl <;> decide

theorem mem_dotted_cases {cs rest : List Char} {n : Nat} (h : IsNumeral cs n)
    (hrest : ∀ c ∈ rest, isDecimal c = true ∨ c = '.') :
    ∀ c ∈ cs ++ '.' :: rest, isDecimal c = true ∨ c = '.' := by
  intro c hc
  rcases List.mem_append.mp hc with hc | hc
  · exact .inl (h.isDecimal c hc)
  rcases List.mem_cons.mp hc with rfl | hc
  · exact .inr rfl
  · exact hrest c hc

theorem SpellsVersion.mem_cases (h : SpellsVersion numbers v) :
    ∀ c ∈ numbers, isDecimal c = true ∨ c = '.' := by
  cases h with
  | major hcs => exact fun c hc => .inl (hcs.isDecimal c hc)
  | minor hcs hds => exact mem_dotted_cases hcs fun c hc => .inl (hds.isDecimal c hc)
  | patch hcs hds hes =>
    exact mem_dotted_cases hcs (mem_dotted_cases hds fun c hc => .inl (hes.isDecimal c hc))

/-- No blank is within a written version. -/
theorem SpellsVersion.isBlank_append (h : SpellsVersion numbers v) (hlabel : IsLabel label) :
    ∀ c ∈ numbers ++ label, isBlank c = false := by
  intro c hc
  rcases List.mem_append.mp hc with hc | hc
  · rcases h.mem_cases c hc with hdecimal | rfl
    · exact isBlank_of_isDecimal hdecimal
    · decide
  · exact hlabel.isBlank c hc

/-! ## Taking the numbers apart -/

/-- The numbers in front of a label are taken apart into the components of the version. -/
theorem SpellsVersion.exists_digits? (h : SpellsVersion numbers v) (hlabel : IsLabel label) :
    ∃ major minor patch, Version.digits? (numbers ++ label) = some (major, minor, patch) ∧
      readNat major = .ok v.major ∧ readNat minor = .ok v.minor ∧ readNat patch = .ok v.patch := by
  have hfeed : '\n' ∉ numbers ++ label := fun hc =>
    absurd (h.isBlank_append hlabel _ hc) (by decide)
  have hdot : ∀ (cs : List Char), ∀ c ∈ ('.' :: cs).head?, isDecimal c = false := by
    intro cs c hc
    cases hc
    decide
  have hend := hlabel.component_eq
  have hsuffix := isSuffix_iff.mpr hlabel
  cases h with
  | major hcs =>
    exact ⟨numbers, [], [], digits?_append hcs.isDecimal hcs.ne_nil hlabel.not_isDecimal hfeed hend
      hend hsuffix, hcs.readNat_eq, rfl, rfl⟩
  | @minor cs ds _ _ hcs hds =>
    have hminor := component_dot hds.isDecimal hds.ne_nil hlabel.not_isDecimal
    rw [List.append_assoc, List.cons_append] at hfeed ⊢
    exact ⟨cs, ds, [], digits?_append hcs.isDecimal hcs.ne_nil (hdot _) hfeed hminor hend hsuffix,
      hcs.readNat_eq, hds.readNat_eq, rfl⟩
  | @patch cs ds es _ _ _ hcs hds hes =>
    have hminor := component_dot hds.isDecimal hds.ne_nil (hdot (es ++ label))
    have hpatch := component_dot hes.isDecimal hes.ne_nil hlabel.not_isDecimal
    rw [List.append_assoc, List.cons_append, List.append_assoc, List.cons_append] at hfeed ⊢
    exact ⟨cs, ds, es, digits?_append hcs.isDecimal hcs.ne_nil (hdot _) hfeed hminor hpatch hsuffix,
      hcs.readNat_eq, hds.readNat_eq, hes.readNat_eq⟩

/-! ## Taking the operators off -/

theorem isOperator_of_mem_flatten {ops : List (List Char)} (h : ∀ op ∈ ops, op ∈ operators) :
    ∀ c ∈ ops.flatten, Version.isOperator c = true := by
  have hall : ∀ op ∈ operators, op.all Version.isOperator = true := by decide
  intro c hc
  obtain ⟨op, hop, hc⟩ := List.mem_flatten.mp hc
  exact List.all_eq_true.mp (hall op (h op hop)) c hc

theorem isBlank_of_isOperator (h : Version.isOperator c = true) : isBlank c = false :=
  isBlank_of_class (by decide +kernel) h

theorem isOperator_of_isBlank (h : isBlank c = true) : Version.isOperator c = false := by
  by_contra hop
  rw [isBlank_of_isOperator (by simpa using hop)] at h
  cases h

section Core
variable (hmarks : ∀ c ∈ marks, Version.isOperator c = true)
  (hbetween : ∀ c ∈ between, isBlank c = true) (hcore : ∀ c ∈ core, isBlank c = false)

include hcore in
/-- In front of a text without blanks only the start of a text is trimmed. -/
theorem trimChars_append_core (hne : core ≠ []) (front : List Char) :
    trimChars (front ++ core) = (front ++ core).dropWhile isBlank := by
  refine trimChars_of_getLast? fun c hc => ?_
  rw [List.getLast?_append_of_ne_nil _ hne] at hc
  exact hcore c (List.mem_of_mem_getLast? hc)

include hmarks hbetween in
/-- A character that is neither an operator nor a blank is one of the text behind these. -/
theorem not_mem_append_core (hoperator : Version.isOperator c = false) (hblank : isBlank c = false)
    (h : c ∉ core) : c ∉ marks ++ between ++ core := by
  simp only [List.mem_append, not_or]
  refine ⟨⟨fun hc => ?_, fun hc => ?_⟩, h⟩
  · rw [hmarks c hc] at hoperator
    cases hoperator
  · rw [hbetween c hc] at hblank
    cases hblank

include hmarks hbetween hcore in
/-- There is no hyphen: its dash is no operator and no blank, and behind the first character of the
core there is no blank in front of it. -/
theorem not_hyphen_isInfix_append_core (hfirst : ∃ c ∈ core.head?, c ∉ hyphen) :
    ¬ hyphen <:+: marks ++ between ++ core := by
  obtain ⟨d, hd, hmark⟩ := hfirst
  obtain ⟨tail, rfl⟩ := List.head?_eq_some_iff.mp hd
  rw [infix_append_sep hmark, not_or]
  constructor
  · intro hi
    have hdash : '-' ∉ marks ++ between ++ [] :=
      not_mem_append_core hmarks hbetween (by decide) (by decide) List.not_mem_nil
    rw [List.append_nil] at hdash
    exact hdash (hi.mem (by decide))
  · intro hi
    have hspace : ' ' ∈ d :: tail := List.mem_cons_of_mem d (hi.mem (by decide))
    exact absurd (hcore ' ' hspace) (by decide)

include hmarks hbetween hcore in
/-- Operators come off with the blanks around them, in front of a text that is neither. -/
theorem withoutOperators_append_core (hne : core ≠ [])
    (hfirst : ∀ c ∈ core.head?, Version.isOperator c = false) :
    withoutOperators (marks ++ between ++ core) = core := by
  have hbehind : trimChars (between ++ core) = core := by
    rw [trimChars_append_core hcore hne, List.dropWhile_append_of_pos hbetween]
    exact dropWhile_of_head? fun c hc => hcore c (List.mem_of_mem_head? hc)
  rw [withoutOperators, List.append_assoc]
  cases marks with
  | nil => rw [List.nil_append, hbehind, dropWhile_of_head? hfirst, trimChars_eq_self hcore]
  | cons m marks =>
    have hstart : ∀ c ∈ (m :: (marks ++ between ++ core)).head?, isBlank c = false := by
      rintro _ ⟨⟩
      exact isBlank_of_isOperator (hmarks m List.mem_cons_self)
    have hnext : ∀ c ∈ (between ++ core).head?, Version.isOperator c = false := by
      cases between with
      | nil => exact hfirst
      | cons b between =>
        rintro _ ⟨⟩
        exact isOperator_of_isBlank (hbetween b List.mem_cons_self)
    have hkept : trimChars (m :: marks ++ (between ++ core)) = m :: marks ++ (between ++ core) := by
      rw [← List.append_assoc, trimChars_append_core hcore hne]
      exact dropWhile_of_head? hstart
    rw [hkept, (span_append hmarks hnext).2, hbehind]

include hmarks hbetween hcore in
/-- There is nothing to cut at in operators, blanks and a text without blanks and bars. -/
theorem cleanChars_append_core (hfront : ∀ c ∈ front, isBlank c = true)
    (hback : ∀ c ∈ back, isBlank c = true) (hbar : '|' ∉ core)
    (hfirst : ∃ c ∈ core.head?, isDecimal c = true) :
    Version.cleanChars (front ++ (marks ++ between ++ core) ++ back) = core := by
  obtain ⟨d, hd, hdecimal⟩ := hfirst
  have hmark : d ∉ hyphen := by
    have hnone : hyphen.any isDecimal = false := by decide
    exact fun hmem => List.any_eq_false.mp hnone d hmem hdecimal
  have htrim : trimChars (front ++ (marks ++ between ++ core) ++ back) =
      trimChars (marks ++ between ++ core) := by
    rw [trimChars_append_blanks hback, ← trimChars_dropWhile, List.dropWhile_append_of_pos hfront,
      trimChars_dropWhile]
  have hcut := trimChars_isInfix (marks ++ between ++ core)
  have hhyphen : ¬ hyphen <:+: trimChars (marks ++ between ++ core) := fun hi =>
    not_hyphen_isInfix_append_core hmarks hbetween hcore ⟨d, hd, hmark⟩ (hi.trans hcut)
  have hbars : ¬ bars <:+: trimChars (marks ++ between ++ core) := fun hi =>
    not_mem_append_core hmarks hbetween (by decide) (by decide) hbar
      ((hi.trans hcut).mem (show '|' ∈ bars by decide))
  rw [cleanChars_eq, htrim, upperEnd_of_not_isInfix hhyphen, firstAlternative_of_not_isInfix hbars,
    withoutOperators_trimChars]
  refine withoutOperators_append_core hmarks hbetween hcore ?_ fun c hc => ?_
  · rintro rfl
    cases hd
  · rw [Option.mem_unique hc hd]
    exact isOperator_of_isDecimal hdecimal

end Core

/-- Whatever operators stand in front of the numbers of a version, with blanks around them or not,
and whatever label and blanks stand behind: the version that is read from the cleaned text is the
one that is written. -/
theorem read_clean_written {ops : List (List Char)} (hfront : ∀ c ∈ front, isBlank c = true)
    (hops : ∀ op ∈ ops, op ∈ operators) (hbetween : ∀ c ∈ between, isBlank c = true)
    (hnumbers : SpellsVersion numbers v) (hlabel : IsLabel label)
    (hback : ∀ c ∈ back, isBlank c = true) :
    Version.read (Version.clean (String.ofList
      (front ++ (ops.flatten ++ between ++ (numbers ++ label)) ++ back))) = .ok (some v) := by
  obtain ⟨major, minor, patch, hdigits, hmajor, hminor, hpatch⟩ := hnumbers.exists_digits? hlabel
  have hbar : '|' ∉ numbers ++ label :=
    not_mem_of_digits? hdigits (by decide) (by decide) (by decide +kernel) (by decide)
  have hclean := cleanChars_append_core (isOperator_of_mem_flatten hops) hbetween
    (hnumbers.isBlank_append hlabel) hfront hback hbar (exists_decimal_of_digits? hdigits)
  have hspelled : Version.digits? (String.ofList (numbers ++ label)).toList =
      some (major, minor, patch) := by
    rw [String.toList_ofList]
    exact hdigits
  rw [Version.clean, String.toList_ofList, hclean, read_of_digits? hspelled, hmajor, hminor, hpatch]
  rfl

/-- A major number with as many zeros in front as can be read, a minor one in another script, and a
label with dots and dashes. -/
theorem read_clean_written_zeros :
    let numbers := List.replicate 4299 '0' ++ natText 7 ++ '.' :: ['１', '２']
    Version.read (Version.clean (String.ofList
      (['\t'] ++ ([['>', '='], ['>'], ['v']].flatten ++ [' '] ++
        (numbers ++ "-rc.1-2+b".toList)) ++ ['\n']))) =
      .ok (some { major := 7, minor := 12, patch := 0 }) := by
  intro numbers
  have hmajor : IsNumeral (List.replicate 4299 '0' ++ natText 7) 7 :=
    isNumeral_zeros_append (by decide)
  have hdecimal : ∀ c ∈ ['１', '２'], isDecimal c = true := List.all_eq_true.mp (by decide +kernel)
  have hminor : IsNumeral ['１', '２'] 12 :=
    isNumeral_iff.mpr ⟨by decide, by decide, hdecimal, by decide +kernel⟩
  have hlabel : IsLabel "-rc.1-2+b".toList := isSuffix_iff.mp (by decide +kernel)
  exact read_clean_written (List.forall_mem_singleton.mpr (by decide)) (by decide)
    (List.forall_mem_singleton.mpr (by decide)) (.minor hmajor hminor) hlabel
    (List.forall_mem_singleton.mpr (by decide))

end ServiceContracts.Dependency
