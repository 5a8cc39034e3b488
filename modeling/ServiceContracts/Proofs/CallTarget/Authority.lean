import ServiceContracts.Proofs.CallTarget.Template
import ServiceContracts.Text.Digit

/-!
# The authority of a URL

A URL is put together from a scheme, credentials, a host, a port and the rest, each of its form.

* `IsScheme`, `IsUserinfo`, `IsPort`, `UrlParts` : the parts of a URL;
* `isAuthorityChar_of` : which characters an authority holds;
* `UrlParts.bareChars_authority` : all but the host is left out of the authority.
-/

namespace ServiceContracts.CallTarget
open Text Interpolation ServiceContracts.Path

/-! ## Parts of a URL -/

/-- A character that an authority may hold: it does not end it, and is neither a blank nor the start
of an interpolation. -/
def isAuthorityChar (c : Char) : Bool := !endsAuthority c && c != '$' && !isBlank c

/-- A character behind the first one of a scheme. -/
def continuesScheme (c : Char) : Bool :=
  isLetter c || isDigit c || c == '+' || c == '.' || c == '-'

/-- Nothing, or a scheme with its colon. -/
inductive IsScheme : List Char → Prop
  | nothing : IsScheme []
  | named {c : Char} {cs : List Char} (hc : isLetter c = true)
      (hcs : ∀ d ∈ cs, continuesScheme d = true) : IsScheme (c :: (cs ++ [':']))

/-- Nothing, or credentials in front of an `@`. -/
inductive IsUserinfo : List Char → Prop
  | nothing : IsUserinfo []
  | named {user : List Char} (h : ∀ c ∈ user, isAuthorityChar c = true) : IsUserinfo (user ++ ['@'])

/-- Nothing, or a colon with decimal digits. -/
inductive IsPort : List Char → Prop
  | nothing : IsPort []
  | numbered {digits : List Char} (h : ∀ c ∈ digits, isDecimal c = true) : IsPort (':' :: digits)

/-- The parts of an absolute URL; the rest is a path, a query or a fragment, or nothing. -/
structure UrlParts where
  scheme : List Char
  user : List Char
  host : List Char
  port : List Char
  rest : List Char
  isScheme : IsScheme scheme
  isUserinfo : IsUserinfo user
  isName : ∀ c ∈ host, Host.isNameChar c = true
  host_ne_nil : host ≠ []
  isPort : IsPort port
  isRest : ∀ c ∈ rest.head?, endsAuthority c = true

namespace UrlParts

def authority (u : UrlParts) : List Char := u.user ++ (u.host ++ u.port)

/-- The URL without its rest. -/
def base (u : UrlParts) : List Char := u.scheme ++ ("//".toList ++ u.authority)

def text (u : UrlParts) : String := String.ofList (u.base ++ u.rest)

end UrlParts

/-! ## The authority -/

section Characters
variable {c : Char}

/-- The codes of the characters that an authority does not hold. -/
def otherCodes : List Nat := ['/', '?', '#', '$'].map Char.toNat ++ blankCodes

theorem mem_otherCodes (h : isAuthorityChar c = false) : c.toNat ∈ otherCodes := by
  simp only [isAuthorityChar, endsAuthority, Bool.and_eq_false_iff, Bool.not_eq_false',
    Bool.or_eq_true, beq_iff_eq, bne_eq_false_iff_eq] at h
  rw [otherCodes, List.mem_append]
  rcases h with (((rfl | rfl) | rfl) | rfl) | hblank
  · exact .inl (by decide)
  · exact .inl (by decide)
  · exact .inl (by decide)
  · exact .inl (by decide)
  · exact .inr (mem_blankCodes hblank)

/-- A class of characters without any of the other codes is one that an authority may hold. -/
theorem isAuthorityChar_of {p : Char → Bool} (hp : ∀ n ∈ otherCodes, p (Char.ofNat n) = false)
    (h : p c = true) : isAuthorityChar c = true := by
  by_contra hother
  have := hp c.toNat (mem_otherCodes (by simpa using hother))
  rw [Char.ofNat_toNat, h] at this
  cases this

theorem isAuthorityChar_of_isNameChar (h : Host.isNameChar c = true) : isAuthorityChar c = true :=
  isAuthorityChar_of (by decide +kernel) h

theorem isAuthorityChar_of_isDecimal (h : isDecimal c = true) : isAuthorityChar c = true :=
  isAuthorityChar_of (by decide +kernel) h

theorem isBlank_of_isAuthorityChar (h : isAuthorityChar c = true) : isBlank c = false := by
  simp only [isAuthorityChar, Bool.and_eq_true, Bool.not_eq_true'] at h
  exact h.2

theorem endsAuthority_of_isAuthorityChar (h : isAuthorityChar c = true) :
    endsAuthority c = false := by
  simp only [isAuthorityChar, Bool.and_eq_true, Bool.not_eq_true'] at h
  exact h.1.1

end Characters

section Parts
variable {user port back : List Char}

theorem IsUserinfo.isAuthorityChar (h : IsUserinfo user) :
    ∀ c ∈ user, isAuthorityChar c = true := by
  cases h with
  | nothing => exact fun c hc => by cases hc
  | named h =>
    intro c hc
    rcases List.mem_append.mp hc with hc | hc
    · exact h c hc
    · rw [List.mem_singleton.mp hc]
      decide

theorem IsPort.mem_cases (h : IsPort port) : ∀ c ∈ port, c = ':' ∨ isDecimal c = true := by
  cases h with
  | nothing => exact fun c hc => by cases hc
  | numbered h => exact fun c hc => (List.mem_cons.mp hc).imp_right (h c)

/-- Lower case keeps the last `@` in its place. -/
theorem IsUserinfo.behindLast (h : IsUserinfo user) (hback : '@' ∉ back) :
    ∃ seen, behindLast '@' (lowerChars (user ++ back)) = lowerAfter seen back := by
  have hnone : ∀ {seen}, '@' ∉ lowerAfter seen back := fun hmem =>
    hback (mem_of_mem_lowerAfter (by decide) (by decide) hmem)
  cases h with
  | nothing => exact ⟨[], behindLast_of_not_mem hnone⟩
  | @named user h =>
    obtain ⟨image, himage, -⟩ := lowerAfter_append [] user ('@' :: back)
    have hmark : ∀ seen, lowerAfter seen ('@' :: back) = '@' :: lowerAfter ('@' :: seen) back :=
      fun seen => rfl
    refine ⟨'@' :: (user.reverse ++ []), ?_⟩
    rw [List.append_assoc, List.singleton_append, lowerChars, himage, hmark]
    exact behindLast_append_sep hnone

theorem IsPort.before (h : IsPort port) {front : List Char} (hfront : ':' ∉ front)
    (seen : List Char) : before ':' (front ++ lowerAfter seen port) = front := by
  cases h with
  | nothing =>
    rw [lowerAfter, List.append_nil]
    exact before_of_not_mem hfront
  | @numbered digits h =>
    have hcolon : lowerAfter seen (':' :: digits) = ':' :: lowerAfter (':' :: seen) digits := rfl
    rw [hcolon]
    exact before_append_sep hfront

end Parts

namespace UrlParts
variable (u : UrlParts)

theorem isAuthorityChar_of_mem : ∀ c ∈ u.authority, isAuthorityChar c = true := by
  intro c hc
  simp only [authority, List.mem_append] at hc
  rcases hc with hc | hc | hc
  · exact u.isUserinfo.isAuthorityChar c hc
  · exact isAuthorityChar_of_isNameChar (u.isName c hc)
  · rcases u.isPort.mem_cases c hc with rfl | hdecimal
    · decide
    · exact isAuthorityChar_of_isDecimal hdecimal

theorem at_not_mem : '@' ∉ u.host ++ u.port := by
  intro hmem
  rcases List.mem_append.mp hmem with hmem | hmem
  · exact Host.not_mem_name u.isName (by decide) hmem
  · rcases u.isPort.mem_cases '@' hmem with heq | hdecimal
    · exact absurd heq (by decide)
    · exact absurd hdecimal (by decide +kernel)

theorem lowerChars_host_ne_nil : lowerChars u.host ≠ [] := by
  rw [lowerChars_of_ascii fun c hc => Host.isNameChar_ascii (u.isName c hc)]
  exact mt List.map_eq_nil_iff.mp u.host_ne_nil

/-- Credentials and port are left out, and no character of the host is. -/
theorem bareChars_authority : Host.bareChars u.authority = lowerChars u.host := by
  have htrim : trimChars u.authority = u.authority :=
    trimChars_eq_self fun c hc => isBlank_of_isAuthorityChar (u.isAuthorityChar_of_mem c hc)
  have hslash : '/' ∉ lowerChars u.authority := fun hmem =>
    absurd (u.isAuthorityChar_of_mem '/' (mem_of_mem_lowerChars (by decide) (by decide) hmem))
      (by decide)
  have hcut : cut? "://".toList (lowerChars u.authority) = none :=
    cut?_of_not_mem (by decide) hslash
  have hascii : ∀ c ∈ u.host, c.toNat < 128 := fun c hc => Host.isNameChar_ascii (u.isName c hc)
  have hname := Host.isNameChar_lowerChars u.isName
  obtain ⟨seen, hbehind⟩ := u.isUserinfo.behindLast u.at_not_mem
  rw [lowerAfter_append_of_ascii hascii, ← lowerChars_of_ascii hascii] at hbehind
  have hhead : (lowerChars u.host ++ lowerAfter (u.host.reverse ++ seen) u.port).head? ≠
      some '[' := by
    rw [List.head?_append_of_ne_nil _ u.lowerChars_host_ne_nil]
    exact fun e => Host.not_mem_name hname (by decide) (List.mem_of_mem_head? e)
  rw [Host.bareChars, htrim, hcut]
  show (if (behindLast '@' (before '/' (lowerChars u.authority))).head? = some '[' then _
    else _) = _
  rw [before_of_not_mem hslash, authority, hbehind, if_neg hhead,
    u.isPort.before (Host.not_mem_name hname (by decide))]

end UrlParts

end ServiceContracts.CallTarget
