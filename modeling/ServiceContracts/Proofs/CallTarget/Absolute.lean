import ServiceContracts.Proofs.Boundary.Widening
import ServiceContracts.Proofs.CallTarget.Authority
import ServiceContracts.Proofs.CallTarget.Paths

/-!
# Absolute URLs

The host in front of a path is found twice, when a URL is read and when its host is judged, and both
times it is the same. Whether it is internal is told by whole labels.

* `Host.related_iff` : two hosts are related if the labels of one are the last ones of the other;
* `UrlParts.read_text` : a URL is read as its host, with the rest as path;
* `Boundary.normalize_text` : on which side of a boundary such a URL lies.
-/

namespace ServiceContracts.Host
open Text

/-- The labels of a host. -/
def labels (host : List Char) : List (List Char) := split '.' host

theorem related_iff {host domain : List Char} : related host domain = true ↔
    labels domain <:+ labels host ∨ labels host <:+ labels domain := by
  rw [labels, labels, split_suffix_iff, split_suffix_iff]
  simp only [related, Bool.or_eq_true, beq_iff_eq, List.isSuffixOf_iff_suffix]
  constructor
  · rintro ((heq | hdomain) | hhost)
    · exact .inl (.inl heq.symm)
    · exact .inl (.inr hdomain)
    · exact .inr (.inr hhost)
  · rintro ((heq | hdomain) | (heq | hhost))
    · exact .inl (.inl heq.symm)
    · exact .inl (.inr hdomain)
    · exact .inl (.inl heq)
    · exact .inr hhost

end ServiceContracts.Host

namespace ServiceContracts.CallTarget
open Text Interpolation ServiceContracts.Path

/-! ## Reading a URL -/

section Whole
variable {scheme rest : List Char}

theorem IsScheme.exists_cons (h : IsScheme scheme) (rest : List Char) : ∃ c cs,
    scheme ++ ("//".toList ++ rest) = c :: cs ∧ (c = '/' ∨ isLetter c = true) := by
  cases h with
  | nothing => exact ⟨'/', _, rfl, .inl rfl⟩
  | named hc => exact ⟨_, _, rfl, .inr hc⟩

theorem IsScheme.afterScheme?_append (h : IsScheme scheme) (rest : List Char) :
    afterScheme? (scheme ++ ("//".toList ++ rest)) = some rest := by
  unfold afterScheme?
  cases h with
  | nothing => rw [List.nil_append, after?_append]
  | @named c cs hc hcs =>
    have hslashes : after? "//".toList ((c :: (cs ++ [':'])) ++ ("//".toList ++ rest)) = none := by
      apply after?_of_head?_ne
      rintro ⟨⟩
      exact absurd hc (by decide)
    have hdrop : ((cs ++ [':']) ++ ("//".toList ++ rest)).dropWhile continuesScheme =
        "://".toList ++ rest := by
      rw [List.append_assoc, List.dropWhile_append_of_pos hcs]
      rfl
    rw [hslashes]
    show (if isLetter c then after? "://".toList
      (((cs ++ [':']) ++ ("//".toList ++ rest)).dropWhile continuesScheme) else none) = _
    rw [if_pos hc, hdrop, after?_append]

/-- A scheme holds no underscore, so its colon does not end the mark of a variable. -/
theorem IsScheme.after?_sentinel (h : IsScheme scheme) (rest : List Char) :
    after? sentinel (scheme ++ ("//".toList ++ rest)) = none := by
  apply after?_eq_none
  rintro ⟨back, hback⟩
  cases h with
  | nothing => exact absurd (List.cons.inj hback).1 (by decide)
  | @named c cs hc hcs =>
    have hname : ∀ d ∈ c :: cs, continuesScheme d = true :=
      List.forall_mem_cons.mpr ⟨by simp [continuesScheme, hc], hcs⟩
    have hcolon : ':' ∉ c :: cs := fun hmem => absurd (hname ':' hmem) (by decide)
    have hbefore : before ':' (sentinel ++ back) = "ENV_VAR".toList :=
      before_append_sep (show ':' ∉ "ENV_VAR".toList by decide)
    rw [hback, List.cons_append, List.append_assoc] at hbefore
    have hmark : c :: cs = "ENV_VAR".toList := (before_append_sep hcolon).symm.trans hbefore
    exact absurd (hname '_' (hmark ▸ by decide)) (by decide)

/-- Unless it reads a variable somewhere, a URL is what its authority makes of it. -/
theorem IsScheme.readTrimmed_append (h : IsScheme scheme)
    (hread : ¬ ReadsVariable (scheme ++ ("//".toList ++ rest))) :
    readTrimmed (scheme ++ ("//".toList ++ rest)) = ofAuthority rest := by
  have hidentifier : isIdentifier (scheme ++ ("//".toList ++ rest)) = false := by
    by_contra hname
    have hslash : '/' ∉ scheme ++ ("//".toList ++ rest) :=
      not_mem_identifier (by simpa using hname) (by decide) (by decide) (by decide)
    exact hslash (by simp)
  obtain ⟨c, cs, hcons, hc⟩ := h.exists_cons rest
  have hfirst : c ≠ '$' := by
    rintro rfl
    exact absurd hc (by decide)
  have hstart : atStart? (c :: cs) = none := atStart?_of_ne hfirst cs
  rw [← hcons] at hstart
  have hempty : ¬ (scheme ++ ("//".toList ++ rest)).isEmpty = true := by
    rw [hcons]
    exact Bool.false_ne_true
  rw [readTrimmed, if_neg hempty, h.after?_sentinel, hstart, lookup?_eq_none_iff.mpr hread,
    hidentifier, h.afterScheme?_append]
  simp only [Bool.false_eq_true, if_false]

/-- Behind an authority without a blank at its end only the end of a URL is trimmed. -/
theorem IsScheme.trimChars_append (h : IsScheme scheme) {authority : List Char}
    (hne : authority ≠ []) (hlast : ∀ c ∈ authority.getLast?, isBlank c = false)
    (rest : List Char) : trimChars (scheme ++ ("//".toList ++ (authority ++ rest))) =
      scheme ++ ("//".toList ++ (authority ++ dropEndWhile isBlank rest)) := by
  have hfirst : ∃ c ∈ (scheme ++ ("//".toList ++ authority)).head?, isBlank c = false := by
    obtain ⟨c, cs, hcons, hc⟩ := h.exists_cons authority
    refine ⟨c, by rw [hcons]; rfl, ?_⟩
    rcases hc with rfl | hletter
    · decide
    · exact isBlank_of_isAuthorityChar
        (isAuthorityChar_of_isNameChar (by simp [Host.isNameChar, hletter]))
  have hlast' : ∀ c ∈ (scheme ++ ("//".toList ++ authority)).getLast?, isBlank c = false := by
    rw [List.getLast?_append_of_ne_nil _ (by simp), List.getLast?_append_of_ne_nil _ hne]
    exact hlast
  have htrim := Text.trimChars_append hfirst hlast' rest
  simpa only [List.append_assoc] using htrim

theorem IsScheme.readTrimmed_trimChars (h : IsScheme scheme) {authority : List Char}
    (hne : authority ≠ []) (hlast : ∀ c ∈ authority.getLast?, isBlank c = false)
    (hread : ¬ ReadsVariable (scheme ++ ("//".toList ++ (authority ++ rest)))) :
    readTrimmed (trimChars (scheme ++ ("//".toList ++ (authority ++ rest)))) =
      ofAuthority (authority ++ dropEndWhile isBlank rest) := by
  rw [h.trimChars_append hne hlast]
  apply h.readTrimmed_append
  intro hkept
  obtain ⟨blanks, hblanks⟩ := List.rdropWhile_prefix isBlank rest
  rw [← dropEndWhile_eq_rdropWhile] at hblanks
  apply hread
  rw [← hblanks]
  simpa only [List.append_assoc] using hkept.append_right blanks

end Whole

section Rest
variable {rest : List Char} (hrest : ∀ c ∈ rest.head?, endsAuthority c = true)
include hrest

theorem trimChars_rest : trimChars rest = dropEndWhile isBlank rest := by
  apply trimChars_of_head?
  intro c hc
  have hends := hrest c hc
  simp only [endsAuthority, Bool.or_eq_true, beq_iff_eq] at hends
  rcases hends with (rfl | rfl) | rfl <;> decide

theorem head?_dropEndWhile_rest : ∀ c ∈ (dropEndWhile isBlank rest).head?,
    endsAuthority c = true := by
  intro c hc
  obtain ⟨blanks, hblanks⟩ := List.rdropWhile_prefix isBlank rest
  obtain ⟨cs, hcs⟩ := List.head?_eq_some_iff.mp hc
  apply hrest c
  rw [← hblanks, ← dropEndWhile_eq_rdropWhile, hcs]
  rfl

end Rest

namespace UrlParts
variable (u : UrlParts)

theorem authority_ne_nil : u.authority ≠ [] := by
  simp [authority, u.host_ne_nil]

theorem toList_text : u.text.toList =
    u.scheme ++ ("//".toList ++ (u.authority ++ u.rest)) := by
  rw [text, String.toList_ofList, base, List.append_assoc, List.append_assoc]

theorem ofAuthority_authority {rest : List Char}
    (hrest : ∀ c ∈ rest.head?, endsAuthority c = true) : ofAuthority (u.authority ++ rest) =
      absolute (String.ofList (lowerChars u.host)) (String.ofList (cleanChars rest)) := by
  have hkeeps : ∀ c ∈ u.authority, endsAuthority c = false := fun c hc =>
    endsAuthority_of_isAuthorityChar (u.isAuthorityChar_of_mem c hc)
  have hdollar : '$' ∉ u.authority := fun hmem =>
    absurd (u.isAuthorityChar_of_mem '$' hmem) (by decide)
  rw [ofAuthority_append hkeeps hdollar hrest, bareChars_authority]

theorem read_text (hread : ¬ ReadsVariable u.text.toList) : CallTarget.read u.text =
    absolute (lower (String.ofList u.host)) (Path.clean (String.ofList u.rest)) := by
  have hlast : ∀ c ∈ u.authority.getLast?, isBlank c = false := fun c hc =>
    isBlank_of_isAuthorityChar (u.isAuthorityChar_of_mem c (List.mem_of_mem_getLast? hc))
  rw [toList_text] at hread
  rw [CallTarget.read, toList_text, u.isScheme.readTrimmed_trimChars u.authority_ne_nil hlast hread,
    u.ofAuthority_authority (head?_dropEndWhile_rest u.isRest), ← trimChars_rest u.isRest,
    cleanChars_trimChars, lower, Path.clean, String.toList_ofList, String.toList_ofList]

end UrlParts

end ServiceContracts.CallTarget

namespace ServiceContracts.Boundary
open Text CallTarget Host

theorem isInternalHost_lowerChars {b : Boundary} (u : UrlParts) :
    b.isInternalHost (lowerChars u.host) = true ↔
      ∃ domain ∈ b.internalDomains, isBlankText domain = false ∧
        (labels (bareChars domain.toList) <:+ labels (lowerChars u.host) ∨
          labels (lowerChars u.host) <:+ labels (bareChars domain.toList)) := by
  have hbare : bareChars (lowerChars u.host) = lowerChars u.host := by
    rw [← bareChars_name u.isName, bareChars_bareChars u.isName]
  have hempty : (lowerChars u.host).isEmpty = false := by
    simpa using u.lowerChars_host_ne_nil
  rw [isInternalHost, hbare, hempty]
  simp only [Bool.not_false, Bool.true_and, List.any_eq_true, mem_hosts, related_iff]
  constructor
  · rintro ⟨_, ⟨domain, hdomain, hblank, rfl⟩, hrelated⟩
    exact ⟨domain, hdomain, hblank, hrelated⟩
  · rintro ⟨domain, hdomain, hblank, hrelated⟩
    exact ⟨_, ⟨domain, hdomain, hblank, rfl⟩, hrelated⟩

theorem normalize_text_eq {b : Boundary} (u : UrlParts) (hread : ¬ ReadsVariable u.text.toList) :
    b.normalize u.text =
      { raw := u.text
        target := .absolute (lower (String.ofList u.host)) (Path.clean (String.ofList u.rest))
        standing := if b.isInternalHost (lowerChars u.host) then .internal else .external } := by
  have hhost : (lower (String.ofList u.host)).toList = lowerChars u.host := by
    rw [lower, String.toList_ofList, String.toList_ofList]
  rw [normalize, u.read_text hread, standing, hhost]

/-- An absolute URL is stripped of its host, and is internal just if the labels of the host end with
all those of an internal domain, or the other way round. -/
theorem normalize_text (b : Boundary) (u : UrlParts) (hread : ¬ ReadsVariable u.text.toList) :
    let n := b.normalize u.text
    n.base? = some (lower (String.ofList u.host)) ∧
      n.path? = some (Path.clean (String.ofList u.rest)) ∧ n.envVar? = none ∧
      n.unlisted? = none ∧
      (n.standing = .internal ↔ ∃ domain ∈ b.internalDomains, isBlankText domain = false ∧
        (labels (bareChars domain.toList) <:+ labels (lowerChars u.host) ∨
          labels (lowerChars u.host) <:+ labels (bareChars domain.toList))) ∧
      (n.standing = .internal ∨ n.standing = .external) := by
  rw [normalize_text_eq u hread]
  refine ⟨rfl, rfl, rfl, ?_, ?_, ?_⟩
  · rw [Normalized.unlisted?, Normalized.envVar?, ite_self]
  · rw [← isInternalHost_lowerChars]
    split <;> simp_all
  · split <;> simp

/-- Credentials and a port around a host that is a subdomain of a listed one, in capitals. -/
def gateway : UrlParts where
  scheme := "https:".toList
  user := "me:p:w@".toList
  host := "api.Example.com".toList
  port := ":8443".toList
  rest := "/v1/?next=process.env ".toList
  isScheme := @IsScheme.named 'h' "ttps".toList (by decide) (List.all_eq_true.mp (by decide))
  isUserinfo := @IsUserinfo.named "me:p:w".toList (List.all_eq_true.mp (by decide +kernel))
  isName := List.all_eq_true.mp (by decide +kernel)
  host_ne_nil := by decide
  isPort := @IsPort.numbered "8443".toList (List.all_eq_true.mp (by decide +kernel))
  isRest := by
    rintro _ ⟨⟩
    decide

/-- A listed domain makes it internal, and a text in which its host ends does not. -/
theorem normalize_text_gateway :
    let b : Boundary := { internalDomains := [" ", "ample.com", "http://Example.com:80/x"] }
    let b' : Boundary := { internalDomains := [" ", "ample.com"] }
    gateway.text = "https://me:p:w@api.Example.com:8443/v1/?next=process.env " ∧
      ¬ ReadsVariable gateway.text.toList ∧
      (b.normalize gateway.text).base? = some "api.example.com" ∧
      (b.normalize gateway.text).path? = some "/v1" ∧
      (b.normalize gateway.text).standing = .internal ∧
      (b'.normalize gateway.text).standing = .external := by
  intro b b'
  have hread : ¬ ReadsVariable gateway.text.toList := lookup?_eq_none_iff.mp (by decide +kernel)
  obtain ⟨hbase, hpath, -, -, hinternal, -⟩ := normalize_text b gateway hread
  obtain ⟨-, -, -, -, hinternal', hcases⟩ := normalize_text b' gateway hread
  have hhost : lower (String.ofList gateway.host) = "api.example.com" := by decide +kernel
  have hclean : Path.clean (String.ofList gateway.rest) = "/v1" := by decide +kernel
  have houtside : ¬ ∃ domain ∈ b'.internalDomains, isBlankText domain = false ∧
      (labels (bareChars domain.toList) <:+ labels (lowerChars gateway.host) ∨
        labels (lowerChars gateway.host) <:+ labels (bareChars domain.toList)) := by
    decide +kernel
  rw [hhost] at hbase
  rw [hclean] at hpath
  refine ⟨by decide +kernel, hread, hbase, hpath, hinternal.mpr ?_,
    hcases.resolve_left (mt hinternal'.mp houtside)⟩
  exact ⟨"http://Example.com:80/x", by decide +kernel, by decide +kernel, .inl (by decide +kernel)⟩

end ServiceContracts.Boundary
