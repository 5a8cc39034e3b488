import ServiceContracts.Proofs.CallTarget.Interpolated

/-!
# Paths behind a variable

A path behind a variable is spelled in four ways: behind the mark for variables, behind an
interpolation, as an expression that adds a quoted path, and with an interpolated host. They are all
read alike. The qualifier that expressions need is not left out inside of an interpolation: there it
becomes part of the name, or the closing brace becomes part of the path.

* `isVariableName` : the names of variables; they are identifiers, with the qualifier too;
* `lookup?_variable`, `added_quoted` : how an expression is cut;
* `Boundary.IsBehind` : all that a boundary tells about a path behind a variable;
* `Boundary.normalize_spellings` : the four spellings;
* `Boundary.normalize_qualified` : interpolations with the qualifier.
-/

namespace ServiceContracts.CallTarget
open Text Interpolation ServiceContracts.Path

/-! ## Names of variables -/

/-- A letter or an underscore, then letters, digits and underscores. -/
def isVariableName : List Char → Bool
  | [] => false
  | c :: cs => startsName c && cs.all continuesName

section Name
variable {name rest : List Char}

theorem isWord_of_continuesName {c : Char} (h : continuesName c = true) : isWord c = true := by
  simp only [continuesName, startsName, Bool.or_eq_true, beq_iff_eq] at h
  have hascii : c.toNat < 128 := by
    rcases h with (h | rfl) | h
    · exact toNat_lt_of_isLetter h
    · decide
    · exact toNat_lt_of_isDigit h
  rw [isWord, if_pos hascii]
  simp only [Bool.or_eq_true, beq_iff_eq]
  tauto

theorem isWord_of_isVariableName (h : isVariableName name = true) :
    ∀ c ∈ name, isWord c = true := by
  cases name with
  | nil => cases h
  | cons c cs =>
    simp only [isVariableName, Bool.and_eq_true, List.all_eq_true] at h
    obtain ⟨hc, hcs⟩ := h
    refine List.forall_mem_cons.mpr ⟨?_, fun d hd => isWord_of_continuesName (hcs d hd)⟩
    exact isWord_of_continuesName (by simp [continuesName, hc])

theorem isIdentifier_append {front : List Char} (hfront : isIdentifier front = true)
    (hname : ∀ c ∈ name, isWord c = true) : isIdentifier (front ++ name) = true := by
  cases front with
  | nil => cases hfront
  | cons c cs =>
    rw [isIdentifier, Bool.and_eq_true] at hfront
    rw [List.cons_append, isIdentifier, hfront.1, Bool.true_and, List.all_append, hfront.2,
      Bool.true_and, List.all_eq_true]
    intro d hd
    rw [hname d hd]
    rfl

theorem isIdentifier_of_isVariableName (h : isVariableName name = true) :
    isIdentifier name = true := by
  have hword := isWord_of_isVariableName h
  cases name with
  | nil => cases h
  | cons c cs =>
    simp only [isVariableName, startsName, Bool.and_eq_true] at h
    have hfirst : isIdentifier [c] = true := by
      rw [isIdentifier, h.1, Bool.true_or]
      rfl
    exact isIdentifier_append hfirst fun d hd => hword d (List.mem_cons_of_mem c hd)

theorem isIdentifier_qualified (h : isVariableName name = true) :
    isIdentifier ("process.env.".toList ++ name) = true :=
  isIdentifier_append (by decide +kernel) (isWord_of_isVariableName h)

/-- A name holds no dot, so no variable is read in it. -/
theorem not_readsVariable_name (h : isVariableName name = true) : ¬ ReadsVariable name := by
  rintro ⟨front, c, back, rfl, -⟩
  have hdot := isWord_of_isVariableName h '.' (by simp)
  exact absurd hdot (by decide +kernel)

/-! ## Cutting an expression -/

theorem lookup?_variable (h : isVariableName name = true)
    (hrest : ∀ c ∈ rest.head?, continuesName c = false) :
    lookup? ("process.env.".toList ++ (name ++ rest)) = some (name, rest) := by
  apply lookup?_of_lookupAtStart?
  cases name with
  | nil => cases h
  | cons c cs =>
    simp only [isVariableName, Bool.and_eq_true, List.all_eq_true] at h
    obtain ⟨hname, hbehind⟩ := span_append h.2 hrest
    rw [List.cons_append, lookupAtStart?_append h.1, hname, hbehind]

/-- A text is taken out of its quotes if none stands at its own ends. -/
theorem added_quoted (hfirst : ∃ c ∈ rest.head?, isQuote c = false)
    (hlast : ∀ c ∈ rest.getLast?, isQuote c = false) :
    added (" + \"".toList ++ (rest ++ ['"'])) = rest := by
  obtain ⟨c, hc, hquote⟩ := hfirst
  obtain ⟨cs, rfl⟩ := List.head?_eq_some_iff.mp hc
  have hplus : trimChars (" + \"".toList ++ (c :: cs ++ ['"'])) =
      '+' :: ' ' :: '"' :: (c :: cs ++ ['"']) := by
    have hfront : ∃ d ∈ ('+' :: ' ' :: '"' :: c :: cs).head?, isBlank d = false :=
      ⟨'+', rfl, by decide⟩
    exact (trimChars_cons_blank (by decide) _).trans (trimChars_append_cons hfront (by decide) [])
  have hoperand : trimChars (' ' :: '"' :: (c :: cs ++ ['"'])) = '"' :: (c :: cs ++ ['"']) := by
    have hfront : ∃ d ∈ ('"' :: c :: cs).head?, isBlank d = false := ⟨'"', rfl, by decide⟩
    exact (trimChars_cons_blank (by decide) _).trans (trimChars_append_cons hfront (by decide) [])
  rw [added, hplus]
  show dropEndsWhile isQuote (trimChars (' ' :: '"' :: (c :: cs ++ ['"']))) = c :: cs
  rw [hoperand, dropEndsWhile, List.dropWhile_cons_of_pos (by decide), List.cons_append,
    List.dropWhile_cons_of_neg (by simp [hquote]), ← List.cons_append, dropEndWhile_append hlast]
  exact List.append_nil _

/-- Only the quotes behind a closing brace are left out. -/
theorem added_brace (rest : List Char) :
    added ('}' :: rest) = '}' :: dropEndWhile isQuote (dropEndWhile isBlank rest) := by
  have hquote : ∀ c ∈ ['}'].getLast?, isQuote c = false := by
    rintro _ ⟨⟩
    decide
  rw [added, trimChars_cons (by decide)]
  exact dropEndWhile_append hquote _

end Name

/-! ## Reading a target -/

section Read
variable {name rest : String} (hname : isVariableName name.toList = true)
  (hrest : ∀ c ∈ rest.toList.head?, endsAuthority c = true)
include hname

theorem read_added (hfirst : ∃ c ∈ rest.toList.head?, isQuote c = false)
    (hlast : ∀ c ∈ rest.toList.getLast?, isQuote c = false) :
    CallTarget.read ("process.env." ++ name ++ " + \"" ++ rest ++ "\"") =
      ofBase name.toList ("process.env.".toList ++ name.toList) rest.toList := by
  have hraw : ("process.env." ++ name ++ " + \"" ++ rest ++ "\"").toList =
      "process.env.".toList ++ (name.toList ++ (" + \"".toList ++ (rest.toList ++ ['"']))) := by
    simp only [String.toList_append, List.append_assoc]
    rfl
  have hstart : ∃ c ∈ ("process.env.".toList ++
      (name.toList ++ (" + \"".toList ++ rest.toList))).head?, isBlank c = false :=
    ⟨'p', rfl, by decide⟩
  have htrim := trimChars_append_cons hstart (show isBlank '"' = false by decide) []
  simp only [List.append_assoc, dropEndWhile_nil] at htrim
  have hends : ∀ c ∈ (" + \"".toList ++ (rest.toList ++ ['"'])).head?, continuesName c = false := by
    rintro _ ⟨⟩
    decide
  rw [CallTarget.read, hraw, htrim,
    readTrimmed_of_lookup? rfl (by decide) (by decide) (lookup?_variable hname hends),
    added_quoted hfirst hlast]

include hrest

theorem read_sentinel : CallTarget.read ("ENV_VAR:" ++ name ++ ":" ++ rest) =
    ofBase name.toList (sentinel ++ name.toList) rest.toList := by
  have hraw : ("ENV_VAR:" ++ name ++ ":" ++ rest).toList =
      sentinel ++ (name.toList ++ ':' :: rest.toList) := by
    simp only [String.toList_append, List.append_assoc]
    rfl
  have hfirst : ∃ c ∈ (sentinel ++ name.toList).head?, isBlank c = false := ⟨'E', rfl, by decide⟩
  have htrim := trimChars_append_cons hfirst (show isBlank ':' = false by decide) rest.toList
  rw [List.append_assoc, List.append_assoc] at htrim
  rw [CallTarget.read, hraw, htrim, readTrimmed_sentinel (isIdentifier_of_isVariableName hname),
    ← trimChars_rest hrest, ofBase_trimChars]

theorem read_hosted (hread : ¬ ReadsVariable rest.toList) :
    CallTarget.read ("https://$\x7b" ++ name ++ "\x7d" ++ rest) =
      ofBase name.toList (spelling name.toList) rest.toList := by
  have hscheme : IsScheme "https:".toList :=
    @IsScheme.named 'h' "ttps".toList (by decide) (List.all_eq_true.mp (by decide))
  have hempty : ∀ c ∈ ([] : List Char), isAuthorityChar c = true := fun c hc => by cases hc
  have hslashes : ¬ ReadsVariable ("https:".toList ++ ("//".toList ++ [])) :=
    lookup?_eq_none_iff.mp (by decide)
  have h := hscheme.read_interpolated hempty hempty (isIdentifier_of_isVariableName hname) hrest
    hslashes (not_readsVariable_name hname) hread
  have hraw : ("https://$\x7b" ++ name ++ "\x7d" ++ rest).toList =
      "https:".toList ++ ("//".toList ++ ([] ++ (spelling name.toList ++ []) ++ rest.toList)) := by
    rw [List.nil_append, List.append_nil, spelling_append]
    simp only [String.toList_append, List.append_assoc]
    rfl
  rw [← h, ← hraw, String.ofList_toList]

/-- The brace that closes the interpolation is read as the start of the path. -/
theorem read_qualified :
    CallTarget.read ("https://$\x7b" ++ ("process.env." ++ name) ++ "\x7d" ++ rest) =
      ofBase name.toList ("process.env.".toList ++ name.toList)
        ('}' :: dropEndWhile isQuote (trimChars rest.toList)) := by
  have hraw : ("https://$\x7b" ++ ("process.env." ++ name) ++ "\x7d" ++ rest).toList =
      "https://$\x7bprocess.env.".toList ++ (name.toList ++ '}' :: rest.toList) := by
    simp only [String.toList_append, List.append_assoc]
    rfl
  have hfirst : ∃ c ∈ ("https://$\x7bprocess.env.".toList ++ name.toList).head?,
      isBlank c = false := ⟨'h', rfl, by decide⟩
  have htrim := trimChars_append_cons hfirst (show isBlank '}' = false by decide) rest.toList
  rw [List.append_assoc, List.append_assoc, ← trimChars_rest hrest] at htrim
  have hbrace : ∀ c ∈ ('}' :: trimChars rest.toList).head?, continuesName c = false := by
    rintro _ ⟨⟩
    decide
  have hlookup : lookup? ("https://$\x7bprocess.env.".toList ++
      (name.toList ++ '}' :: trimChars rest.toList)) =
      some (name.toList, '}' :: trimChars rest.toList) := lookup?_variable hname hbrace
  have hidem : dropEndWhile isBlank (trimChars rest.toList) = trimChars rest.toList :=
    List.rdropWhile_idempotent isBlank _
  rw [CallTarget.read, hraw, htrim,
    readTrimmed_of_lookup? rfl (by decide) (by decide) hlookup, added_brace, hidem]

end Read

end ServiceContracts.CallTarget

namespace ServiceContracts.Path
open Text Interpolation

section Brace
variable {path kept behind : List Char}

/-- What stands behind the last brace of a path takes none away. -/
theorem count_cut_expand_append_le (kept : List Char) (h : '}' ∉ behind) :
    (cut (expand (kept ++ behind))).count '}' ≤ (cut (expand kept)).count '}' := by
  rw [expand_append_of_brace_not_mem h]
  have hle := (cut_append_isPrefix (expand kept) behind).sublist.count_le '}'
  rwa [List.count_append, List.count_eq_zero_of_not_mem h] at hle

/-- A closing brace in front of a path stays in it. -/
theorem count_cleanChars_brace (kept : List Char) : (cleanChars ('}' :: kept)).count '}' =
    (cut (expand (dropEndWhile isBlank kept))).count '}' + 1 := by
  have hexpand : expand ('}' :: dropEndWhile isBlank kept) =
      '}' :: expand (dropEndWhile isBlank kept) :=
    expand_append_of_not_mem (show '$' ∉ ['}'] by decide) _
  have hcut : cut ('}' :: expand (dropEndWhile isBlank kept)) =
      '}' :: cut (expand (dropEndWhile isBlank kept)) := rfl
  rw [count_cleanChars (by decide), trimChars_cons (by decide), hexpand, hcut,
    List.count_cons_self]

theorem cleanChars_brace_ne (htrim : trimChars path = kept ++ behind) (hbehind : '}' ∉ behind) :
    cleanChars ('}' :: kept) ≠ cleanChars path := by
  obtain ⟨blanks, hkept, hblanks⟩ := exists_dropped isBlank kept
  have hnone : '}' ∉ blanks ++ behind := by
    rw [List.mem_append, not_or]
    exact ⟨fun hmem => absurd (hblanks '}' hmem) (by decide), hbehind⟩
  have hpath : trimChars path = dropEndWhile isBlank kept ++ (blanks ++ behind) := by
    rw [htrim, ← List.append_assoc, ← hkept]
  have hle := count_cut_expand_append_le (dropEndWhile isBlank kept) hnone
  intro h
  have hcount := congrArg (List.count '}') h
  rw [count_cleanChars_brace, count_cleanChars (by decide), hpath] at hcount
  omega

end Brace

end ServiceContracts.Path

namespace ServiceContracts.Boundary
open Text Interpolation CallTarget

/-- What a boundary makes of a path behind a variable. -/
structure IsBehind (b : Boundary) (name path : String) (n : Normalized) : Prop where
  side : n.standing.name = if name ∈ b.internalVariables then "internal" else "external"
  path : n.path? = some path
  envVar : n.envVar? = some name
  unlisted : n.unlisted? =
    if name ∈ b.internalVariables ∨ name ∈ b.externalVariables then none else some name

theorem isBehind_of_read {b : Boundary} {raw name rest : String} {spelling : List Char}
    (hname : name.toList ≠ []) (hfirst : ∃ c ∈ rest.toList.head?, isBlank c = false)
    (h : CallTarget.read raw = ofBase name.toList spelling rest.toList) :
    b.IsBehind name (Path.clean rest) (b.normalize raw) := by
  rw [ofBase_of_head? hname spelling hfirst, String.ofList_toList] at h
  refine ⟨name_standing_of_envBased h, ?_, envVar?_of_envBased h, unlisted?_of_envBased h⟩
  rw [path?_of_envBased h]
  exact ite_self _

/-- The spellings of a path behind a variable. -/
def spellings (name rest : String) : List String :=
  ["ENV_VAR:" ++ name ++ ":" ++ rest, "$\x7b" ++ name ++ "\x7d" ++ rest,
    "process.env." ++ name ++ " + \"" ++ rest ++ "\"", "https://$\x7b" ++ name ++ "\x7d" ++ rest]

section Spellings
variable {name rest : String} (hfront : rest.toList.head? = some '/')
include hfront

theorem endsAuthority_of_slash : ∀ c ∈ rest.toList.head?, endsAuthority c = true := by
  rw [hfront]
  rintro _ ⟨⟩
  decide

theorem isBehind_spelling (b : Boundary) (hname : isIdentifier name.toList = true) :
    b.IsBehind name (Path.clean rest) (b.normalize ("$\x7b" ++ name ++ "\x7d" ++ rest)) := by
  have hraw : "$\x7b" ++ name ++ "\x7d" ++ rest =
      String.ofList (spelling name.toList ++ rest.toList) := by
    apply String.toList_inj.mp
    simp [spelling]
  rw [hraw]
  exact isBehind_of_read (isIdentifier_ne_nil hname) ⟨'/', hfront, by decide⟩
    (read_spelling hname (endsAuthority_of_slash hfront))

variable (hname : isVariableName name.toList = true)
include hname

theorem isBehind_hosted (b : Boundary) (hread : ¬ ReadsVariable rest.toList) : b.IsBehind name
    (Path.clean rest) (b.normalize ("https://$\x7b" ++ name ++ "\x7d" ++ rest)) :=
  isBehind_of_read (isIdentifier_ne_nil (isIdentifier_of_isVariableName hname))
    ⟨'/', hfront, by decide⟩ (read_hosted hname (endsAuthority_of_slash hfront) hread)

/-- The variable and the path are the same in every spelling. -/
theorem normalize_spellings (b : Boundary) (hlast : ∀ c ∈ rest.toList.getLast?, isQuote c = false)
    (hread : ¬ ReadsVariable rest.toList) :
    ∀ raw ∈ spellings name rest, b.IsBehind name (Path.clean rest) (b.normalize raw) := by
  have hidentifier := isIdentifier_of_isVariableName hname
  have hne := isIdentifier_ne_nil hidentifier
  have hfirst : ∃ c ∈ rest.toList.head?, isBlank c = false := ⟨'/', hfront, by decide⟩
  have hquote : ∃ c ∈ rest.toList.head?, isQuote c = false := ⟨'/', hfront, by decide⟩
  intro raw hraw
  simp only [spellings, List.mem_cons, List.not_mem_nil, or_false] at hraw
  rcases hraw with rfl | rfl | rfl | rfl
  · exact isBehind_of_read hne hfirst (read_sentinel hname (endsAuthority_of_slash hfront))
  · exact isBehind_spelling hfront b hidentifier
  · exact isBehind_of_read hne hfirst (read_added hname hquote hlast)
  · exact isBehind_hosted hfront hname b hread

end Spellings

/-- Colons, braces, quotes and blanks are no matter. -/
theorem normalize_spellings_marks :
    let b : Boundary := { externalVariables := ["API_URL"] }
    let rest := "/a:b/$\x7bId\x7d/'c'+\x7dd?q=\"e\" "
    isVariableName "API_URL".toList = true ∧ rest.toList.head? = some '/' ∧
      (∀ c ∈ rest.toList.getLast?, isQuote c = false) ∧ ¬ ReadsVariable rest.toList ∧
      "https://$\x7bAPI_URL\x7d/a:b/$\x7bId\x7d/'c'+\x7dd?q=\"e\" " ∈ spellings "API_URL" rest ∧
      ∀ raw ∈ spellings "API_URL" rest,
        b.IsBehind "API_URL" "/a:b/:id/'c'+\x7dd" (b.normalize raw) := by
  intro b rest
  have hname : isVariableName "API_URL".toList = true := by decide
  have hfront : rest.toList.head? = some '/' := by decide +kernel
  have hlast : ∀ c ∈ rest.toList.getLast?, isQuote c = false := by
    have hblank : rest.toList.getLast? = some ' ' := by decide +kernel
    rw [hblank]
    rintro _ ⟨⟩
    decide
  have hread : ¬ ReadsVariable rest.toList := lookup?_eq_none_iff.mp (by decide +kernel)
  have hclean : Path.clean rest = "/a:b/:id/'c'+\x7dd" := by decide +kernel
  refine ⟨hname, hfront, hlast, hread, by decide +kernel, fun raw hraw => ?_⟩
  rw [← hclean]
  exact normalize_spellings hfront hname b hlast hread raw hraw

section Qualified
variable {name rest : String} (hfront : rest.toList.head? = some '/')
  (hname : isVariableName name.toList = true)
include hfront hname

theorem isBehind_qualified (b : Boundary) : b.IsBehind name
    (Path.clean (String.ofList ('}' :: dropEndWhile isQuote (trimChars rest.toList))))
    (b.normalize ("https://$\x7b" ++ ("process.env." ++ name) ++ "\x7d" ++ rest)) := by
  have hread := read_qualified hname (endsAuthority_of_slash hfront)
  rw [← String.toList_ofList (l := '}' :: _)] at hread
  refine isBehind_of_read (isIdentifier_ne_nil (isIdentifier_of_isVariableName hname)) ?_ hread
  rw [String.toList_ofList]
  exact ⟨'}', rfl, by decide⟩

/-- With the qualifier inside of the interpolation, the name or the path is another one. -/
theorem normalize_qualified (b : Boundary) (hread : ¬ ReadsVariable rest.toList) :
    let expression := "process.env." ++ name
    let n := b.normalize ("$\x7b" ++ expression ++ "\x7d" ++ rest)
    let m := b.normalize ("https://$\x7b" ++ expression ++ "\x7d" ++ rest)
    b.IsBehind expression (Path.clean rest) n ∧
      n.envVar? ≠ (b.normalize ("$\x7b" ++ name ++ "\x7d" ++ rest)).envVar? ∧
      b.IsBehind name
        (Path.clean (String.ofList ('}' :: dropEndWhile isQuote (trimChars rest.toList)))) m ∧
      m.path? ≠ (b.normalize ("https://$\x7b" ++ name ++ "\x7d" ++ rest)).path? := by
  intro expression n m
  have hidentifier := isIdentifier_of_isVariableName hname
  have hexpression : isIdentifier expression.toList = true := by
    rw [String.toList_append]
    exact isIdentifier_qualified hname
  have hn : b.IsBehind expression (Path.clean rest) n := isBehind_spelling hfront b hexpression
  have hm := isBehind_qualified hfront hname b
  refine ⟨hn, ?_, hm, ?_⟩
  · rw [hn.envVar, (isBehind_spelling hfront b hidentifier).envVar]
    intro h
    have hchars := congrArg String.toList (Option.some_inj.mp h)
    rw [String.toList_append, List.append_left_eq_self] at hchars
    cases hchars
  · rw [hm.path, (isBehind_hosted hfront hname b hread).path]
    intro h
    obtain ⟨quotes, hquotes, hall⟩ := exists_dropped isQuote (trimChars rest.toList)
    have hclosed : '}' ∉ quotes := fun hmem => absurd (hall '}' hmem) (by decide)
    apply Path.cleanChars_brace_ne hquotes hclosed
    rw [Option.some_inj, Path.clean, Path.clean, String.ofList_inj, String.toList_ofList] at h
    exact h

end Qualified

/-- The quote at the end is lost too. -/
theorem normalize_qualified_quote :
    let b : Boundary := { externalVariables := ["API_URL"] }
    let n := b.normalize "$\x7bprocess.env.API_URL\x7d/users'"
    let m := b.normalize "https://$\x7bprocess.env.API_URL\x7d/users'"
    isVariableName "API_URL".toList = true ∧ "/users'".toList.head? = some '/' ∧
      ¬ ReadsVariable "/users'".toList ∧ b.IsBehind "process.env.API_URL" "/users'" n ∧
      b.IsBehind "API_URL" "/\x7d/users" m := by
  intro b n m
  have hname : isVariableName "API_URL".toList = true := by decide
  have hfront : "/users'".toList.head? = some '/' := by decide +kernel
  have hread : ¬ ReadsVariable "/users'".toList := lookup?_eq_none_iff.mp (by decide +kernel)
  obtain ⟨hn, -, hm, -⟩ := normalize_qualified hfront hname b hread
  have hclean : Path.clean "/users'" = "/users'" := by decide +kernel
  have hbrace : Path.clean (String.ofList ('}' :: dropEndWhile isQuote
      (trimChars "/users'".toList))) = "/\x7d/users" := by decide +kernel
  rw [hclean] at hn
  rw [hbrace] at hm
  exact ⟨hname, hfront, hread, hn, hm⟩

/-- A variable inside is not found, or a brace becomes a segment. -/
theorem normalize_qualified_unlisted :
    let b : Boundary := { internalVariables := ["API_URL"] }
    let n := b.normalize "$\x7bprocess.env.API_URL\x7d/users"
    let m := b.normalize "https://$\x7bprocess.env.API_URL\x7d/users"
    (∀ raw ∈ ["$\x7bAPI_URL\x7d/users", "https://$\x7bAPI_URL\x7d/users"],
      (b.normalize raw).standing = .internal ∧ (b.normalize raw).path? = some "/users" ∧
      (b.normalize raw).envVar? = some "API_URL" ∧ (b.normalize raw).unlisted? = none) ∧
    n.standing = .unlisted ∧ n.path? = some "/users" ∧
      n.envVar? = some "process.env.API_URL" ∧ n.unlisted? = some "process.env.API_URL" ∧
    m.standing = .internal ∧ m.path? = some "/\x7d/users" ∧ m.envVar? = some "API_URL" := by
  decide +kernel

end ServiceContracts.Boundary
