import ServiceContracts.Proofs.CallTarget.Absolute

/-!
# URLs with a variable in their authority

The authority of a URL is searched for an interpolation as a whole. So the variable need not stand
for the host: one that gives the port or the credentials is taken for the base too, and the host
beside it is lost.

* `readsVariable_append_spelling` : no variable is read across the braces of an interpolation;
* `ofAuthority_interpolated`, `IsScheme.read_interpolated` : such a URL is read as the variable and
  the rest;
* `Boundary.normalize_interpolated` : where it lies, beside the URL without the variable.
-/

namespace ServiceContracts.CallTarget
open Text Interpolation ServiceContracts.Path

section Authority
variable {front back name rest : List Char}

theorem not_readsVariable_nil : ¬ ReadsVariable [] := lookup?_eq_none_iff.mp rfl

theorem readsVariable_cons {c : Char} (hc : startsName c = false) (hdot : c ≠ '.')
    (rest : List Char) : ReadsVariable (c :: rest) ↔ ReadsVariable rest := by
  have h := readsVariable_append_cons hc hdot [] rest
  rwa [List.nil_append, or_iff_right not_readsVariable_nil] at h

theorem readsVariable_append_spelling (front name rest : List Char) :
    ReadsVariable (front ++ (spelling name ++ rest)) ↔
      ReadsVariable front ∨ ReadsVariable name ∨ ReadsVariable rest := by
  rw [spelling_append, readsVariable_append_cons (by decide) (by decide),
    readsVariable_cons (by decide) (by decide), readsVariable_append_cons (by decide) (by decide)]

theorem endsAuthority_of_mem_spelling (hname : isIdentifier name = true) :
    ∀ c ∈ spelling name, endsAuthority c = false := by
  intro c hc
  simp only [spelling, List.cons_append, List.mem_cons, List.mem_append, List.not_mem_nil,
    or_false] at hc
  rcases hc with rfl | rfl | hc | rfl
  · decide
  · decide
  · by_contra hends
    simp only [endsAuthority, Bool.not_eq_false, Bool.or_eq_true, beq_iff_eq] at hends
    have hslash := not_mem_identifier hname (c := '/') (by decide) (by decide) (by decide)
    have hquery := not_mem_identifier hname (c := '?') (by decide) (by decide) (by decide)
    have hfragment := not_mem_identifier hname (c := '#') (by decide) (by decide) (by decide)
    rcases hends with (rfl | rfl) | rfl <;> contradiction
  · decide

/-- Whatever stands around it, the first interpolation of an authority is its base. -/
theorem ofAuthority_interpolated (hfront : ∀ c ∈ front, isAuthorityChar c = true)
    (hback : ∀ c ∈ back, isAuthorityChar c = true) (hname : isIdentifier name = true)
    (hrest : ∀ c ∈ rest.head?, endsAuthority c = true) :
    ofAuthority (front ++ (spelling name ++ back) ++ rest) = ofBase name (spelling name) rest := by
  have hkeeps : ∀ c ∈ front ++ (spelling name ++ back), endsAuthority c = false := by
    intro c hc
    simp only [List.mem_append] at hc
    rcases hc with hc | hc | hc
    · exact endsAuthority_of_isAuthorityChar (hfront c hc)
    · exact endsAuthority_of_mem_spelling hname c hc
    · exact endsAuthority_of_isAuthorityChar (hback c hc)
  have hdollar : '$' ∉ front := fun hmem => absurd (hfront '$' hmem) (by decide)
  have hbrace : '}' ∉ name := not_mem_identifier hname (by decide) (by decide) (by decide)
  have hfirst : first? (front ++ (spelling name ++ back)) = some name := by
    rw [first?_append_of_not_mem hdollar, first?_spelling_append hbrace]
  obtain ⟨hauthority, hpath⟩ := span_authority hkeeps hrest
  rw [ofAuthority, hauthority, hpath, hfirst]
  show ofBase (trimChars name) (spelling name) rest = _
  rw [trimChars_identifier hname]

theorem all_isBlank_trimChars (cs : List Char) :
    (trimChars cs).all isBlank = cs.all isBlank := by
  rw [Bool.eq_iff_iff, List.all_eq_true, List.all_eq_true, ← trimChars_eq_nil_iff,
    ← trimChars_eq_nil_iff, trimChars_trimChars]

theorem ofBase_trimChars (name spelling rest : List Char) :
    ofBase name spelling (trimChars rest) = ofBase name spelling rest := by
  unfold ofBase
  rw [all_isBlank_trimChars, cleanChars_trimChars]

theorem read_spelling (hname : isIdentifier name = true)
    (hrest : ∀ c ∈ rest.head?, endsAuthority c = true) :
    CallTarget.read (String.ofList (spelling name ++ rest)) = ofBase name (spelling name) rest := by
  have hfirst : ∃ c ∈ (spelling name).head?, isBlank c = false := ⟨'$', rfl, by decide⟩
  have hlast : ∀ c ∈ (spelling name).getLast?, isBlank c = false := by
    rw [getLast?_spelling]
    rintro _ ⟨⟩
    decide
  rw [CallTarget.read, String.toList_ofList, trimChars_append hfirst hlast,
    readTrimmed_interpolated hname, ← trimChars_rest hrest, ofBase_trimChars]

theorem IsScheme.read_interpolated {scheme : List Char} (h : IsScheme scheme)
    (hfront : ∀ c ∈ front, isAuthorityChar c = true) (hback : ∀ c ∈ back, isAuthorityChar c = true)
    (hname : isIdentifier name = true) (hrest : ∀ c ∈ rest.head?, endsAuthority c = true)
    (hread : ¬ ReadsVariable (scheme ++ ("//".toList ++ front))) (hfree : ¬ ReadsVariable name)
    (hleft : ¬ ReadsVariable (back ++ rest)) :
    CallTarget.read (String.ofList
      (scheme ++ ("//".toList ++ (front ++ (spelling name ++ back) ++ rest)))) =
      ofBase name (spelling name) rest := by
  have hne : front ++ (spelling name ++ back) ≠ [] := by simp [spelling]
  have hlast : ∀ c ∈ (front ++ (spelling name ++ back)).getLast?, isBlank c = false := by
    intro c hc
    rw [List.getLast?_append_of_ne_nil _ (by simp [spelling])] at hc
    cases hnil : back with
    | nil =>
      rw [hnil, List.append_nil, getLast?_spelling, Option.mem_some_iff] at hc
      rw [← hc]
      decide
    | cons d ds =>
      rw [hnil, List.getLast?_append_of_ne_nil _ (List.cons_ne_nil d ds), ← hnil] at hc
      exact isBlank_of_isAuthorityChar (hback c (List.mem_of_mem_getLast? hc))
  have hnone : ¬ ReadsVariable
      (scheme ++ ("//".toList ++ (front ++ (spelling name ++ back) ++ rest))) := by
    have hcut := readsVariable_append_spelling (scheme ++ ("//".toList ++ front)) name
      (back ++ rest)
    simp only [List.append_assoc] at hcut ⊢
    rw [hcut]
    exact not_or.mpr ⟨hread, not_or.mpr ⟨hfree, hleft⟩⟩
  rw [CallTarget.read, String.toList_ofList, h.readTrimmed_trimChars hne hlast hnone,
    ofAuthority_interpolated hfront hback hname (head?_dropEndWhile_rest hrest),
    ← trimChars_rest hrest, ofBase_trimChars]

end Authority

namespace UrlParts
variable (u : UrlParts) {name : List Char}

/-- The URL with another authority. -/
def textWith (authority : List Char) : String :=
  String.ofList (u.scheme ++ ("//".toList ++ (authority ++ u.rest)))

/-- The authority with a variable in place of the port. -/
def withPort (name : List Char) : List Char := u.user ++ (u.host ++ ':' :: spelling name)

/-- The authority with a variable in place of the credentials. -/
def withUser (name : List Char) : List Char := spelling name ++ '@' :: (u.host ++ u.port)

variable (hname : isIdentifier name = true) (hread : ¬ ReadsVariable u.text.toList)
  (hfree : ¬ ReadsVariable name)
include hname hread hfree

theorem read_withPort :
    CallTarget.read (u.textWith (u.withPort name)) = ofBase name (spelling name) u.rest := by
  have hfront : ∀ c ∈ u.user ++ (u.host ++ [':']), isAuthorityChar c = true := by
    intro c hc
    simp only [List.mem_append, List.mem_singleton] at hc
    rcases hc with hc | hc | rfl
    · exact u.isUserinfo.isAuthorityChar c hc
    · exact isAuthorityChar_of_isNameChar (u.isName c hc)
    · decide
  have hpart : ¬ ReadsVariable (u.scheme ++ ("//".toList ++ (u.user ++ (u.host ++ [':'])))) := by
    have hcolon := readsVariable_append_cons (c := ':') (by decide) (by decide)
      (u.scheme ++ ("//".toList ++ (u.user ++ u.host))) []
    simp only [List.append_assoc] at hcolon
    rw [hcolon, or_iff_left not_readsVariable_nil]
    refine fun h => hread (h.mono ⟨[], u.port ++ u.rest, ?_⟩)
    simp [toList_text, authority]
  have hrest : ¬ ReadsVariable u.rest := fun h =>
    hread (h.mono ⟨u.base, [], by rw [List.append_nil, text, String.toList_ofList]⟩)
  have hform : u.withPort name = (u.user ++ (u.host ++ [':'])) ++ (spelling name ++ []) := by
    simp [withPort]
  rw [hform]
  exact u.isScheme.read_interpolated hfront (fun c hc => by cases hc) hname u.isRest hpart hfree
    hrest

theorem read_withUser :
    CallTarget.read (u.textWith (u.withUser name)) = ofBase name (spelling name) u.rest := by
  have hback : ∀ c ∈ '@' :: (u.host ++ u.port), isAuthorityChar c = true := by
    intro c hc
    rcases List.mem_cons.mp hc with rfl | hc
    · decide
    · exact u.isAuthorityChar_of_mem c (List.mem_append_right u.user hc)
  have hpart : ¬ ReadsVariable (u.scheme ++ ("//".toList ++ [])) := by
    refine fun h => hread (h.mono ⟨[], u.authority ++ u.rest, ?_⟩)
    simp [toList_text]
  have hleft : ¬ ReadsVariable ('@' :: (u.host ++ u.port) ++ u.rest) := by
    rw [List.cons_append, readsVariable_cons (by decide) (by decide)]
    refine fun h => hread (h.mono ⟨u.scheme ++ ("//".toList ++ u.user), [], ?_⟩)
    simp [toList_text, authority]
  have hfront : ∀ c ∈ ([] : List Char), isAuthorityChar c = true := fun c hc => by cases hc
  have h := u.isScheme.read_interpolated hfront hback hname u.isRest hpart hfree hleft
  exact h

theorem read_textWith {authority : List Char}
    (h : authority ∈ [u.withPort name, u.withUser name]) :
    CallTarget.read (u.textWith authority) = ofBase name (spelling name) u.rest := by
  simp only [List.mem_cons, List.not_mem_nil, or_false] at h
  rcases h with rfl | rfl
  · exact u.read_withPort hname hread hfree
  · exact u.read_withUser hname hread hfree

end UrlParts

end ServiceContracts.CallTarget

namespace ServiceContracts.Boundary
open Text Interpolation CallTarget

section Interpolated
variable {u : UrlParts}

/-- The rest of a URL is empty or is no blank text. -/
theorem all_isBlank_rest : u.rest.all isBlank = true ↔ u.rest = [] := by
  constructor
  · intro hblank
    cases hrest : u.rest with
    | nil => rfl
    | cons c cs =>
      have hc : endsAuthority c = true := u.isRest c (by rw [hrest]; rfl)
      have hspace : isBlank c = true := List.all_eq_true.mp hblank c (by simp [hrest])
      simp only [endsAuthority, Bool.or_eq_true, beq_iff_eq] at hc
      rcases hc with (rfl | rfl) | rfl <;> cases hspace
  · intro h
    rw [h]
    rfl

theorem ofBase_rest {name : List Char} (hname : name ≠ []) : ofBase name (spelling name) u.rest =
    .envBased (String.ofList name) (String.ofList (spelling name))
      (if u.rest = [] then none else some (Path.clean (String.ofList u.rest))) := by
  have hempty : ¬ name.isEmpty = true := fun h => hname (List.isEmpty_iff.mp h)
  rw [ofBase, if_neg hempty, Path.clean, String.toList_ofList]
  simp only [all_isBlank_rest]

theorem isInternalHost_host (b : Boundary) :
    b.isInternalHost (lowerChars u.host) = b.isInternalHost u.host := by
  rw [← Host.bareChars_name u.isName, isInternalHost_bareChars u.isName]

/-- No host is spelled like an interpolation. -/
theorem spelling_ne_host (name : List Char) :
    String.ofList (spelling name) ≠ lower (String.ofList u.host) := by
  intro h
  have hchars : spelling name = lowerChars u.host := by
    rw [lower, String.toList_ofList] at h
    exact String.ofList_inj.mp h
  have hdollar : '$' ∈ lowerChars u.host := by
    rw [← hchars, spelling]
    exact List.mem_cons_self
  exact Host.not_mem_name (Host.isNameChar_lowerChars u.isName) (by decide) hdollar

end Interpolated

/-- A literal port and literal credentials are no matter. But a URL whose port or whose credentials
are a variable is read as this variable and the rest, so that its base is never the one of the URL
without the variable, and its side and path are so only where the variable is listed as the host
is. -/
theorem normalize_interpolated (b : Boundary) (u : UrlParts) {name : String}
    (hname : isIdentifier name.toList = true) (hread : ¬ ReadsVariable u.text.toList)
    (hfree : ¬ ReadsVariable name.toList) :
    let plain := b.normalize u.text
    plain.target =
      .absolute (lower (String.ofList u.host)) (Path.clean (String.ofList u.rest)) ∧
    ∀ authority ∈ [u.withPort name.toList, u.withUser name.toList],
      let n := b.normalize (u.textWith authority)
      n.target = CallTarget.read (String.ofList (spelling name.toList ++ u.rest)) ∧
      n.envVar? = some name ∧ plain.envVar? = none ∧ n.base? ≠ plain.base? ∧
      (n.standing.name = plain.standing.name ↔
        (name ∈ b.internalVariables ↔ b.isInternalHost u.host = true)) ∧
      (n.path? = plain.path? ↔ u.rest ≠ [] ∨ name ∈ b.internalVariables) ∧
      (n.unlisted? = plain.unlisted? ↔
        name ∈ b.internalVariables ∨ name ∈ b.externalVariables) := by
  intro plain
  have hplain : plain = _ := normalize_text_eq u hread
  refine ⟨by rw [hplain], ?_⟩
  intro authority hauthority n
  have hbase := u.read_textWith hname hread hfree hauthority
  have htarget := hbase.trans (ofBase_rest (isIdentifier_ne_nil hname))
  rw [String.ofList_toList] at htarget
  refine ⟨hbase.trans (read_spelling hname u.isRest).symm, envVar?_of_envBased htarget, ?_, ?_, ?_,
    ?_, ?_⟩
  · rw [hplain, Normalized.envVar?]
  · intro h
    rw [hplain, Normalized.base?, Normalized.base?, show n.target = _ from htarget] at h
    exact spelling_ne_host _ (Option.some_inj.mp h)
  · rw [hplain, show n.standing.name = _ from name_standing_of_envBased htarget,
      isInternalHost_host]
    split <;> split <;> simp_all [Standing.name]
  · rw [hplain, show n.path? = _ from path?_of_envBased htarget, Normalized.path?]
    by_cases hrest : u.rest = []
    · have hroot : Path.clean (String.ofList []) = "/" := by decide
      simp [hrest, hroot]
    · simp [hrest]
  · have hnone : plain.unlisted? = none := by
      rw [hplain, Normalized.unlisted?, Normalized.envVar?, ite_self]
    rw [hnone, show n.unlisted? = _ from unlisted?_of_envBased htarget]
    split <;> simp [*]

/-- A host of one's own, without port and credentials. -/
def localhost : UrlParts where
  scheme := "http:".toList
  user := []
  host := "localhost".toList
  port := []
  rest := "/health".toList
  isScheme := @IsScheme.named 'h' "ttp".toList (by decide) (List.all_eq_true.mp (by decide))
  isUserinfo := .nothing
  isName := List.all_eq_true.mp (by decide +kernel)
  host_ne_nil := by decide
  isPort := .nothing
  isRest := by
    rintro _ ⟨⟩
    decide

/-- The path stays, and the side is not the one of the host. -/
theorem normalize_interpolated_port :
    let b : Boundary := { internalDomains := ["localhost"], externalVariables := ["PORT"] }
    let raw := localhost.textWith (localhost.withPort "PORT".toList)
    raw = "http://localhost:$\x7bPORT\x7d/health" ∧ localhost.text = "http://localhost/health" ∧
      isIdentifier "PORT".toList = true ∧ ¬ ReadsVariable localhost.text.toList ∧
      ¬ ReadsVariable "PORT".toList ∧ (b.normalize raw).envVar? = some "PORT" ∧
      (b.normalize raw).standing.name ≠ (b.normalize localhost.text).standing.name ∧
      (b.normalize raw).path? = (b.normalize localhost.text).path? ∧
      (b.normalize raw).unlisted? = (b.normalize localhost.text).unlisted? := by
  intro b raw
  have hname : isIdentifier "PORT".toList = true := by decide
  have hread : ¬ ReadsVariable localhost.text.toList := lookup?_eq_none_iff.mp (by decide +kernel)
  have hfree : ¬ ReadsVariable "PORT".toList := lookup?_eq_none_iff.mp (by decide +kernel)
  obtain ⟨-, henv, -, -, hside, hpath, hunlisted⟩ :=
    (normalize_interpolated b localhost hname hread hfree).2 _ List.mem_cons_self
  refine ⟨by decide +kernel, by decide +kernel, hname, hread, hfree, henv, ?_, ?_, ?_⟩
  · exact mt hside.mp (by decide +kernel)
  · exact hpath.mpr (.inl (by decide))
  · exact hunlisted.mpr (.inr (by decide))

/-- Be the variable the port or the user, a target on a host inside becomes a suggestion for it. -/
theorem normalize_interpolated_suggested :
    let b : Boundary := { internalDomains := ["localhost"] }
    let plain := b.normalize "http://localhost/x"
    let port := b.normalize "http://localhost:$\x7bPORT\x7d/x"
    let user := b.normalize "http://$\x7bUSER\x7d@localhost/x"
    (plain.standing = .internal ∧ plain.path? = some "/x" ∧ plain.base? = some "localhost" ∧
      plain.envVar? = none ∧ plain.unlisted? = none) ∧
    (port.standing = .unlisted ∧ port.path? = some "/x" ∧ port.base? = some "$\x7bPORT\x7d" ∧
      port.envVar? = some "PORT" ∧ port.unlisted? = some "PORT") ∧
    (user.standing = .unlisted ∧ user.path? = some "/x" ∧ user.base? = some "$\x7bUSER\x7d" ∧
      user.envVar? = some "USER" ∧ user.unlisted? = some "USER") := by
  decide +kernel

end ServiceContracts.Boundary
