import ServiceContracts.Boundary
import ServiceContracts.Proofs.Path.Clean
import ServiceContracts.Proofs.Text.Cut

/-!
# Reading the targets of templates

A target is written as a base, a template path and perhaps a query.

* `Host.bareChars_bareChars` : a plain host name is reduced to its host, and once is enough;
* `ReadsVariable`, `lookup?_eq_none_iff` : when no variable is read by an expression;
* `Boundary.IsInternalBase` : the bases that stay inside a boundary;
* `readTrimmed_nothing`, `readTrimmed_host`, `readTrimmed_interpolated`, `readTrimmed_sentinel` :
  the form of a target by its base;
* `Boundary.normalize_template` : all of them lie inside, and have the segments of the template.
-/

namespace ServiceContracts.Host
open Text

/-- A character of a plain host name. -/
def isNameChar (c : Char) : Bool := isLetter c || isDigit c || c == '-' || c == '.'

theorem isNameChar_ascii {c : Char} (h : isNameChar c = true) : c.toNat < 128 := by
  simp only [isNameChar, Bool.or_eq_true, beq_iff_eq] at h
  rcases h with ((h | h) | rfl) | rfl
  · exact toNat_lt_of_isLetter h
  · exact toNat_lt_of_isDigit h
  · decide
  · decide

theorem isNameChar_facts {c : Char} (h : isNameChar c = true) :
    isBlank c = false ∧ isNameChar c.toLower = true := by
  refine ascii_forall (P := fun c => isNameChar c = true →
    isBlank c = false ∧ isNameChar c.toLower = true) ?_ (isNameChar_ascii h) h
  decide +kernel

section Name
variable {host : List Char} (h : ∀ c ∈ host, isNameChar c = true)
include h

theorem not_mem_name {c : Char} (hc : isNameChar c = false) : c ∉ host := by
  intro hmem
  rw [h c hmem] at hc
  cases hc

theorem isNameChar_lowerChars : ∀ c ∈ lowerChars host, isNameChar c = true := by
  intro c hc
  rw [lowerChars_of_ascii fun d hd => isNameChar_ascii (h d hd)] at hc
  obtain ⟨d, hd, rfl⟩ := List.mem_map.mp hc
  exact (isNameChar_facts (h d hd)).2

/-- There is nothing to leave out of a plain host name. -/
theorem bareChars_name : bareChars host = lowerChars host := by
  have hlower := isNameChar_lowerChars h
  have htrim : trimChars host = host := trimChars_eq_self fun c hc => (isNameChar_facts (h c hc)).1
  have hcut : cut? "://".toList (lowerChars host) = none :=
    cut?_of_not_mem List.mem_cons_self (not_mem_name hlower (by decide))
  have hhead : (lowerChars host).head? ≠ some '[' := fun e =>
    not_mem_name hlower (by decide) (List.mem_of_mem_head? e)
  rw [bareChars, htrim, hcut]
  show (if (behindLast '@' (before '/' (lowerChars host))).head? = some '[' then _ else _) = _
  rw [before_of_not_mem (not_mem_name hlower (by decide)),
    behindLast_of_not_mem (not_mem_name hlower (by decide)), if_neg hhead,
    before_of_not_mem (not_mem_name hlower (by decide))]

theorem bareChars_bareChars : bareChars (bareChars host) = bareChars host := by
  rw [bareChars_name h, bareChars_name (isNameChar_lowerChars h),
    lowerChars_lowerChars fun c hc => isNameChar_ascii (h c hc)]

end Name

end ServiceContracts.Host

namespace ServiceContracts.CallTarget
open Text Interpolation ServiceContracts.Path

/-! ## Variables that expressions read -/

/-- Somewhere the text reads an environment variable by an expression. -/
def ReadsVariable (url : List Char) : Prop :=
  ∃ front c back, url = front ++ "process.env.".toList ++ c :: back ∧ startsName c = true

section Reads
variable {url front : List Char} {c : Char}

theorem readsVariable_iff : ReadsVariable url ↔
    ∃ c, startsName c = true ∧ "process.env.".toList ++ [c] <:+: url := by
  constructor
  · rintro ⟨front, c, back, rfl, hc⟩
    exact ⟨c, hc, front, back, by simp⟩
  · rintro ⟨c, hc, front, back, rfl⟩
    exact ⟨front, c, back, by simp, hc⟩

theorem ReadsVariable.mono (h : ReadsVariable front) (hpart : front <:+: url) :
    ReadsVariable url := by
  obtain ⟨c, hc, hmark⟩ := readsVariable_iff.mp h
  exact readsVariable_iff.mpr ⟨c, hc, hmark.trans hpart⟩

theorem ReadsVariable.append_right (h : ReadsVariable url) (rest : List Char) :
    ReadsVariable (url ++ rest) :=
  h.mono (List.prefix_append url rest).isInfix

/-- A character that no variable is read with keeps what is read on its sides apart. -/
theorem readsVariable_append_cons (hc : startsName c = false) (hdot : c ≠ '.')
    (front rest : List Char) :
    ReadsVariable (front ++ c :: rest) ↔ ReadsVariable front ∨ ReadsVariable rest := by
  have hsep : ∀ d, startsName d = true → c ∉ "process.env.".toList ++ [d] := by
    intro d hd hmem
    have hmark : "process.env.".toList.all (fun e => startsName e || e == '.') = true := by decide
    rcases List.mem_append.mp hmem with hmem | hmem
    · rcases Bool.or_eq_true_iff.mp (List.all_eq_true.mp hmark c hmem) with h | h
      · rw [hc] at h
        cases h
      · exact hdot (beq_iff_eq.mp h)
    · rw [List.mem_singleton.mp hmem, hd] at hc
      cases hc
  simp only [readsVariable_iff, ← exists_or, ← and_or_left]
  exact exists_congr fun d => and_congr_right fun hd => infix_append_sep (hsep d hd)

end Reads

theorem lookupAtStart?_eq_none {url : List Char} (h : ¬ ReadsVariable url) :
    lookupAtStart? url = none := by
  rw [lookupAtStart?]
  split
  · next c rest hafter =>
    have hc : ¬ startsName c = true := fun hc =>
      h ⟨[], c, rest, after?_eq_some_iff.mp hafter, hc⟩
    rw [if_neg hc]
  · rfl

theorem lookupAtStart?_append {c : Char} (hc : startsName c = true) (rest : List Char) :
    lookupAtStart? ("process.env.".toList ++ c :: rest) =
      some (c :: rest.takeWhile continuesName, rest.dropWhile continuesName) := by
  rw [lookupAtStart?, after?_append]
  exact if_pos hc

theorem lookup?_of_lookupAtStart? {url : List Char} {found : List Char × List Char}
    (h : lookupAtStart? url = some found) : lookup? url = some found := by
  cases url with
  | nil => cases h
  | cons c cs => rw [lookup?, h]

/-- The search finds a variable just if there is one. -/
theorem lookup?_eq_none_iff {url : List Char} : lookup? url = none ↔ ¬ ReadsVariable url := by
  constructor
  · rintro h ⟨front, c, back, rfl, hc⟩
    induction front with
    | nil =>
      rw [List.nil_append, lookup?_of_lookupAtStart? (lookupAtStart?_append hc back)] at h
      cases h
    | cons d front ih =>
      rw [List.append_assoc, List.cons_append, lookup?] at h
      split at h
      · cases h
      · exact ih (by rwa [List.append_assoc])
  · intro h
    induction url with
    | nil => rfl
    | cons d url ih =>
      rw [lookup?, lookupAtStart?_eq_none h]
      apply ih
      rintro ⟨front, c, back, rfl, hc⟩
      exact h ⟨d :: front, c, back, rfl, hc⟩

/-! ## The form of a target by its base -/

section Read
variable {segs : List (List Char)} {q : List Char}

/-- The text behind a base is a path if it does not start with a blank. -/
theorem ofBase_of_head? {name rest : List Char} (hname : name ≠ []) (spelling : List Char)
    (hfirst : ∃ c ∈ rest.head?, isBlank c = false) : ofBase name spelling rest =
      envBased (String.ofList name) (String.ofList spelling)
        (some (String.ofList (cleanChars rest))) := by
  obtain ⟨c, hc, hkept⟩ := hfirst
  have hblank : ¬ rest.all isBlank = true := by
    intro h
    rw [List.all_eq_true.mp h c (List.mem_of_mem_head? hc)] at hkept
    cases hkept
  have hempty : ¬ name.isEmpty = true := fun h => hname (List.isEmpty_iff.mp h)
  rw [ofBase, if_neg hblank, if_neg hempty]

/-- No second slash follows the one in front. -/
theorem after?_slashes (hsegs : ∀ s ∈ segs, IsTemplate s) (hq : IsQuery q) :
    after? "//".toList (slashed segs ++ q) = none := by
  by_contra hsome
  obtain ⟨rest, hrest⟩ := Option.ne_none_iff_exists'.mp hsome
  have heq := after?_eq_some_iff.mp hrest
  cases segs with
  | nil =>
    have hq' : q = '/' :: rest := (List.cons.inj heq).2
    rcases hq '/' (by rw [hq']; rfl) with h | h
    · exact absurd h (by decide)
    · exact absurd h (by decide)
  | cons s segs =>
    obtain ⟨c, cs, rfl, hc⟩ := (hsegs s List.mem_cons_self).exists_cons
    obtain ⟨back, hback⟩ := slashed_cons (c :: cs) segs
    rw [hback] at heq
    exact hc (List.cons.inj (List.cons.inj heq).2).1

/-- A single slash in front makes a path. -/
theorem readTrimmed_path {url : List Char} (hfront : url.head? = some '/')
    (hslashes : after? "//".toList url = none) (hread : ¬ ReadsVariable url) :
    readTrimmed url = relative (String.ofList (cleanChars url)) := by
  obtain ⟨path, rfl⟩ := List.head?_eq_some_iff.mp hfront
  have hscheme : afterScheme? ('/' :: path) = none := by
    unfold afterScheme?
    rw [hslashes]
    rfl
  rw [readTrimmed, hscheme, lookup?_eq_none_iff.mpr hread]
  rfl

theorem readTrimmed_nothing (hsegs : ∀ s ∈ segs, IsTemplate s) (hq : IsQuery q)
    (hread : ¬ ReadsVariable (slashed segs ++ q)) :
    readTrimmed (slashed segs ++ q) = relative (String.ofList (cleanChars (slashed segs ++ q))) :=
  readTrimmed_path rfl (after?_slashes hsegs hq) hread

/-- An authority ends where the rest starts. -/
theorem span_authority {authority rest : List Char}
    (hkeeps : ∀ c ∈ authority, endsAuthority c = false)
    (hrest : ∀ c ∈ rest.head?, endsAuthority c = true) :
    (authority ++ rest).takeWhile (fun c => !endsAuthority c) = authority ∧
      (authority ++ rest).dropWhile (fun c => !endsAuthority c) = rest := by
  apply span_append
  · exact fun c hc => by simp [hkeeps c hc]
  · exact fun c hc => by simp [hrest c hc]

/-- An authority without interpolations is a host, and what ends it starts the path. -/
theorem ofAuthority_append {authority rest : List Char}
    (hkeeps : ∀ c ∈ authority, endsAuthority c = false) (hdollar : '$' ∉ authority)
    (hrest : ∀ c ∈ rest.head?, endsAuthority c = true) : ofAuthority (authority ++ rest) =
      absolute (String.ofList (Host.bareChars authority)) (String.ofList (cleanChars rest)) := by
  obtain ⟨hauthority, hpath⟩ := span_authority hkeeps hrest
  rw [ofAuthority, hauthority, hpath, first?_of_not_mem hdollar]

theorem readTrimmed_host {scheme host : List Char}
    (hscheme : scheme = "http://".toList ∨ scheme = "https://".toList)
    (hhost : ∀ c ∈ host, Host.isNameChar c = true) (segs : List (List Char)) (q : List Char)
    (hread : ¬ ReadsVariable (scheme ++ (host ++ (slashed segs ++ q)))) :
    readTrimmed (scheme ++ (host ++ (slashed segs ++ q))) =
      absolute (String.ofList (Host.bareChars host))
        (String.ofList (cleanChars (slashed segs ++ q))) := by
  have hkeeps : ∀ c ∈ host, endsAuthority c = false := by
    intro c hc
    refine ascii_forall (P := fun c => Host.isNameChar c = true → endsAuthority c = false) ?_
      (Host.isNameChar_ascii (hhost c hc)) (hhost c hc)
    decide +kernel
  have hslash : ∀ c ∈ (slashed segs ++ q).head?, endsAuthority c = true := by
    rintro _ ⟨⟩
    decide
  have hlookup := lookup?_eq_none_iff.mpr hread
  rw [← ofAuthority_append hkeeps (Host.not_mem_name hhost (by decide)) hslash, readTrimmed, hlookup]
  rcases hscheme with rfl | rfl
  · rfl
  · rfl

theorem readTrimmed_interpolated {name : List Char} (hname : isIdentifier name = true)
    (rest : List Char) :
    readTrimmed (spelling name ++ rest) = ofBase name (spelling name) rest := by
  have hbrace : '}' ∉ name := not_mem_identifier hname (by decide) (by decide) (by decide)
  have hform : readTrimmed (spelling name ++ rest) =
      ofBase (trimChars name) (spelling name) rest := by
    rw [readTrimmed, atStart?_spelling hbrace]
    rfl
  rw [hform, trimChars_identifier hname]

theorem readTrimmed_sentinel {name : List Char} (hname : isIdentifier name = true)
    (rest : List Char) :
    readTrimmed (sentinel ++ (name ++ ':' :: rest)) = ofBase name (sentinel ++ name) rest := by
  have hcolon : ':' ∉ name := not_mem_identifier hname (by decide) (by decide) (by decide)
  have hdrop : (name ++ ':' :: rest).drop (name.length + 1) = rest := by
    rw [← List.drop_drop, List.drop_left]
    rfl
  rw [readTrimmed, after?_append]
  show ofBase (before ':' _) (sentinel ++ before ':' _) (List.drop ((before ':' _).length + 1) _) = _
  rw [before_append_sep hcolon, hdrop]

end Read

end ServiceContracts.CallTarget

namespace ServiceContracts.Boundary
open Text Interpolation ServiceContracts.Path CallTarget

/-- What may stand in front of a path so that the target lies inside a boundary: nothing, a scheme
with an internal host, or an internal variable in one of its two spellings. -/
inductive IsInternalBase (b : Boundary) : List Char → Prop
  | nothing : IsInternalBase b []
  | host {scheme host : List Char}
      (hscheme : scheme = "http://".toList ∨ scheme = "https://".toList)
      (hhost : ∀ c ∈ host, Host.isNameChar c = true) (hin : b.isInternalHost host = true) :
      IsInternalBase b (scheme ++ host)
  | interpolated {name : List Char} (hname : isIdentifier name = true)
      (hin : String.ofList name ∈ b.internalVariables) : IsInternalBase b (spelling name)
  | sentinel {name : List Char} (hname : isIdentifier name = true)
      (hin : String.ofList name ∈ b.internalVariables) :
      IsInternalBase b (CallTarget.sentinel ++ (name ++ [':']))

section Base
variable {b : Boundary} {base : List Char} {segs : List (List Char)} {q : List Char}

/-- A target starts with its base or with a slash, and so with no blank. -/
theorem IsInternalBase.head?_append (h : b.IsInternalBase base) (segs : List (List Char)) :
    ∃ c ∈ (base ++ slashed segs).head?, isBlank c = false := by
  cases h with
  | nothing => exact ⟨'/', rfl, by decide⟩
  | host hscheme =>
    refine ⟨'h', ?_, by decide⟩
    rcases hscheme with rfl | rfl
    · rfl
    · rfl
  | interpolated => exact ⟨'$', rfl, by decide⟩
  | sentinel => exact ⟨'E', rfl, by decide⟩

/-- Trimming takes nothing from the base and the path. -/
theorem IsInternalBase.trimChars_append (h : b.IsInternalBase base)
    (hsegs : ∀ s ∈ segs, IsTemplate s) (q : List Char) :
    trimChars (base ++ (slashed segs ++ q)) = base ++ (slashed segs ++ dropEndWhile isBlank q) := by
  have hne : slashed segs ≠ [] := List.cons_ne_nil _ _
  have hlast : ∀ c ∈ (base ++ slashed segs).getLast?, isBlank c = false := by
    rw [List.getLast?_append_of_ne_nil _ hne]
    exact getLast?_slashed (by decide) fun s hs =>
      ⟨(hsegs s hs).ne_nil, (hsegs s hs).not_blank_getLast?⟩
  rw [← List.append_assoc, Text.trimChars_append (h.head?_append segs) hlast, List.append_assoc]

/-- A bare host name is as internal as the name that it comes from. -/
theorem isInternalHost_bareChars {host : List Char} (h : ∀ c ∈ host, Host.isNameChar c = true) :
    b.isInternalHost (Host.bareChars host) = b.isInternalHost host := by
  rw [isInternalHost, isInternalHost, Host.bareChars_bareChars h]

/-- A target lies inside the boundary, at a path. -/
def LeadsTo (b : Boundary) (target : CallTarget) (path : String) : Prop :=
  b.standing target = .internal ∧
    ∀ raw, ({ raw, target, standing := b.standing target } : Normalized).path? = some path

theorem leadsTo_envBased {name : String} (h : name ∈ b.internalVariables) (spelling path : String) :
    b.LeadsTo (envBased name spelling (some path)) path := by
  have hstanding : b.standing (envBased name spelling (some path)) = .internal := if_pos h
  exact ⟨hstanding, fun _ => if_pos hstanding⟩

/-- A target with an internal base is internal, and its path is the one behind the base. -/
theorem IsInternalBase.leadsTo (h : b.IsInternalBase base) (hsegs : ∀ s ∈ segs, IsTemplate s)
    (hq : IsQuery q) (hread : ¬ ReadsVariable (base ++ (slashed segs ++ q))) :
    b.LeadsTo (readTrimmed (base ++ (slashed segs ++ q)))
      (String.ofList (cleanChars (slashed segs ++ q))) := by
  cases h with
  | nothing =>
    rw [List.nil_append] at hread ⊢
    rw [readTrimmed_nothing hsegs hq hread]
    exact ⟨rfl, fun _ => rfl⟩
  | host hscheme hhost hin =>
    rw [List.append_assoc] at hread ⊢
    rw [readTrimmed_host hscheme hhost segs q hread]
    refine ⟨?_, fun _ => rfl⟩
    rw [standing, String.toList_ofList, isInternalHost_bareChars hhost, if_pos hin]
  | interpolated hname hin =>
    rw [readTrimmed_interpolated hname,
      ofBase_of_head? (isIdentifier_ne_nil hname) _ ⟨'/', rfl, by decide⟩]
    exact leadsTo_envBased hin _ _
  | sentinel hname hin =>
    rw [List.append_assoc, List.append_assoc, List.singleton_append, readTrimmed_sentinel hname,
      ofBase_of_head? (isIdentifier_ne_nil hname) _ ⟨'/', rfl, by decide⟩]
    exact leadsTo_envBased hin _ _

/-- A template behind an internal base lies inside the boundary, and the segments of its path are
those of the template, each expanded by itself. -/
theorem normalize_template {raw : String} (hbase : b.IsInternalBase base)
    (hsegs : ∀ s ∈ segs, IsTemplate s) (hq : IsQuery q)
    (hraw : raw.toList = base ++ (slashed segs ++ q)) (hread : ¬ ReadsVariable raw.toList) :
    (b.normalize raw).standing = .internal ∧
      ∃ path, (b.normalize raw).path? = some path ∧ segments path.toList = segs.map expand := by
  obtain ⟨blanks, hblanks⟩ := List.rdropWhile_prefix isBlank q
  rw [← dropEndWhile_eq_rdropWhile] at hblanks
  have hq' := hq.dropEndWhile_isBlank
  have hkept : ¬ ReadsVariable (base ++ (slashed segs ++ dropEndWhile isBlank q)) := by
    intro h
    apply hread
    rw [hraw, ← hblanks, ← List.append_assoc (slashed segs), ← List.append_assoc base]
    exact h.append_right blanks
  obtain ⟨hstanding, hpath⟩ := hbase.leadsTo hsegs hq' hkept
  rw [← hbase.trimChars_append hsegs q, ← hraw] at hstanding hpath
  refine ⟨hstanding, _, hpath raw, ?_⟩
  rw [String.toList_ofList]
  exact segments_cleanChars hsegs hq'

end Base

end ServiceContracts.Boundary
