import ServiceContracts.Document.Json.Reader
import ServiceContracts.Document.Json.Writer
import ServiceContracts.Proofs.Number.Decimal

/-!
# Written strings and numbers are read back

* `readString_flatMap` : escaped characters are read as the characters, up to the closing quote;
* `readNumber?_intText` : an integer in decimal is read as the integer, if no number goes on behind.
-/

namespace ServiceContracts.Document.Json
open Number Text

/-! ## Strings -/

section Strings
variable {opening chars tail rest : List Char} {c : Char}

theorem hexValue?_hexDigit : ∀ d < 16, hexValue? (hexDigit d) = some d := by
  decide

/-- The four hexadecimal digits of a code unit spell it. -/
theorem fourDigits?_hex {n : Nat} (h : n < 0x10000) (tail : List Char) :
    fourDigits? (hex 4 n ++ tail) = some n := by
  have hdigits : hex 4 n ++ tail = hexDigit (n / 16 / 16 / 16 % 16) ::
      hexDigit (n / 16 / 16 % 16) :: hexDigit (n / 16 % 16) :: hexDigit (n % 16) :: tail := rfl
  have hvalue : ∀ m, hexValue? (hexDigit (m % 16)) = some (m % 16) := fun m =>
    hexValue?_hexDigit _ (Nat.mod_lt m (by decide))
  rw [hdigits]
  simp only [fourDigits?, hvalue, Option.bind_eq_bind, Option.bind_some, Option.some.injEq]
  omega

/-- What an escape has taken is passed over. -/
theorem readString_append (opening front tail : List Char) :
    readString opening front.length (front ++ tail) = readString opening 0 tail := by
  induction front with
  | nil => rfl
  | cons c front ih => exact ih

theorem readString_of_shortEscape? {e : Char} (he : shortEscape? e = some c)
    (h : readString opening 0 tail = .ok (chars, rest)) :
    readString opening 0 ('\\' :: e :: tail) = .ok (c :: chars, rest) := by
  have hu : e ≠ 'u' := by
    rintro rfl
    cases he
  have hskip : readString opening 1 (e :: tail) = .ok (chars, rest) := h
  rw [readString, if_neg (by decide), if_pos rfl]
  simp only [if_neg hu, he, hskip]
  rfl

theorem readString_unicode (hc : c.toNat < 0x20)
    (h : readString opening 0 tail = .ok (chars, rest)) :
    readString opening 0 ('\\' :: 'u' :: hex 4 c.toNat ++ tail) = .ok (c :: chars, rest) := by
  have htail : tail ≠ [] := by
    rintro rfl
    cases h
  have hlength : ¬ (hex 4 c.toNat ++ tail).length ≤ 4 := by
    have hhex : (hex 4 c.toNat).length = 4 := rfl
    have := List.length_pos_of_ne_nil htail
    rw [List.length_append]
    omega
  have hhigh : isHigh c.toNat = false := by
    simp only [isHigh, Bool.and_eq_false_iff, decide_eq_false_iff_not]
    omega
  have hescape : unicodeEscape? (hex 4 c.toNat ++ tail) = some (c.toNat, 4) := by
    rw [unicodeEscape?, if_neg hlength, fourDigits?_hex (by omega)]
    simp [hhigh]
  have hcode : ofCode c.toNat = [c] := by
    have hlow : isSurrogate c.toNat = false := by
      simp only [isSurrogate, Bool.and_eq_false_iff, decide_eq_false_iff_not]
      omega
    rw [ofCode, hlow, if_neg (by decide), if_neg (by omega), Char.ofNat_toNat]
  have hskip : readString opening 5 ('u' :: hex 4 c.toNat ++ tail) = .ok (chars, rest) :=
    (readString_append opening ('u' :: hex 4 c.toNat) tail).trans h
  rw [List.cons_append, List.cons_append, readString, if_neg (by decide), if_pos rfl]
  rw [List.cons_append] at hskip
  simp only [if_true, hescape, hskip, hcode]
  rfl

theorem readString_plain (hquote : c ≠ '"') (hback : c ≠ '\\') (hc : ¬ c.toNat < 0x20)
    (h : readString opening 0 tail = .ok (chars, rest)) :
    readString opening 0 (c :: tail) = .ok (c :: chars, rest) := by
  rw [readString.eq_def]
  simp only [if_neg hquote, if_neg hback, if_neg hc, h]
  rfl

/-- A character is escaped by a letter or by its code, or stands for itself. -/
theorem escaped_cases (c : Char) :
    (∃ e, escaped c = ['\\', e] ∧ shortEscape? e = some c) ∨
    (escaped c = '\\' :: 'u' :: hex 4 c.toNat ∧ c.toNat < 0x20) ∨
    (escaped c = [c] ∧ c ≠ '"' ∧ c ≠ '\\' ∧ ¬ c.toNat < 0x20) := by
  have hshort : ∀ d ∈ ['"', '\\', '\x08', '\t', '\n', '\x0c', '\r'],
      ∃ e, escaped d = ['\\', e] ∧ shortEscape? e = some d := by
    simp [escaped, shortEscape?]
  by_cases hc : c ∈ ['"', '\\', '\x08', '\t', '\n', '\x0c', '\r']
  · exact .inl (hshort c hc)
  · simp only [List.mem_cons, List.not_mem_nil, or_false, not_or] at hc
    simp [escaped, hc]
    omega

theorem readString_escaped (h : readString opening 0 tail = .ok (chars, rest)) :
    readString opening 0 (escaped c ++ tail) = .ok (c :: chars, rest) := by
  rcases escaped_cases c with ⟨e, heq, he⟩ | ⟨heq, hc⟩ | ⟨heq, hquote, hback, hc⟩
  · rw [heq]
    exact readString_of_shortEscape? he h
  · rw [heq]
    exact readString_unicode hc h
  · rw [heq]
    exact readString_plain hquote hback hc h

theorem readString_flatMap (opening chars rest : List Char) :
    readString opening 0 (chars.flatMap escaped ++ '"' :: rest) = .ok (chars, rest) := by
  induction chars with
  | nil => rfl
  | cons c chars ih =>
    rw [List.flatMap_cons, List.append_assoc]
    exact readString_escaped ih

end Strings

/-! ## Numbers -/

section Numbers
variable {cs rest : List Char}

/-- A text at whose start no number goes on. -/
def EndsNumber (rest : List Char) : Prop :=
  ∀ c ∈ rest.head?, isDigit c = false ∧ c ≠ '.' ∧ c ≠ 'e' ∧ c ≠ 'E'

theorem digits_append (hcs : ∀ c ∈ cs, isDigit c = true) (h : EndsNumber rest) :
    digits (cs ++ rest) = (cs, rest) := by
  rw [digits, List.takeWhile_append_of_pos hcs, List.dropWhile_append_of_pos hcs]
  cases rest with
  | nil => simp
  | cons c rest => simp [(h c rfl).1]

theorem fraction?_eq_none (h : EndsNumber rest) : fraction? rest = none := by
  unfold fraction?
  split
  · exact absurd rfl (h '.' rfl).2.1
  · rfl

theorem exponent?_eq_none (h : EndsNumber rest) : exponent? rest = none := by
  cases rest with
  | nil => rfl
  | cons c rest => simp [exponent?, (h c rfl).2.2]

theorem readNumber?_natText {n : Nat} (hn : (natText n).length ≤ digitLimit)
    (h : EndsNumber rest) :
    readNumber? (natText n ++ rest) = some (.ok (.int n), rest) ∧
      readNumber? ('-' :: (natText n ++ rest)) = some (.ok (.int (-n)), rest) := by
  obtain ⟨d, ds, hds⟩ := List.exists_cons_of_ne_nil (natText_ne_nil n)
  have hread : readNat (d :: ds) = .ok n := hds ▸ readNat_natText hn
  have hdigit : ∀ c ∈ d :: ds, isDigit c = true := fun c hc => isDigit_of_mem_natText (hds ▸ hc)
  have hdigits : digits (d :: (ds ++ rest)) = (d :: ds, rest) := digits_append hdigit h
  have hminus : d ≠ '-' := by
    rintro rfl
    exact absurd (hdigit '-' List.mem_cons_self) (by decide)
  have hzero : d = '0' → ds = [] := by
    rintro rfl
    have hn : n = 0 := head?_natText (by rw [hds]; rfl)
    rw [hn] at hds
    exact (List.cons.inj hds).2.symm
  have hfraction := fraction?_eq_none h
  have hexponent := exponent?_eq_none h
  rw [hds, List.cons_append]
  by_cases hd : d = '0'
  · subst hd
    rw [hzero rfl] at hread ⊢
    simp [readNumber?, hread, hfraction, hexponent, Except.map]
  · simp [readNumber?, hminus, hd, hdigits, hread, hfraction, hexponent, Except.map]

theorem readNumber?_intText {i : Int} (hi : IsShort i) (h : EndsNumber rest) :
    readNumber? (intText i ++ rest) = some (.ok (.int i), rest) := by
  obtain ⟨hplus, hminus⟩ := readNumber?_natText hi h
  rw [intText]
  split
  · rw [List.cons_append, hminus]
    congr
    omega
  · rw [hplus]
    congr
    omega

end Numbers

end ServiceContracts.Document.Json
