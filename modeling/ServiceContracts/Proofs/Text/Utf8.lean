import Mathlib.Data.List.Basic
import ServiceContracts.Text.CodePoint
import ServiceContracts.Text.Utf8

/-!
# What is UTF-8

* `Spells` : the bytes of one character, and its code point;
* `decodeChar_encodeChar`, `encodeChar_of_decodeChar` : one character is decoded as it is encoded;
* `decode_eq_ok_iff` : bytes are decoded to a text just if they are its encoding;
* `exists_decode_eq_error_iff` : they are refused just if they are the encoding of none.
-/

namespace ServiceContracts.Text.Utf8
open String (utf8EncodeChar)

/-! ## Bytes -/

section Bytes
variable {a b : UInt8} {n : Nat}

theorem ofNat_eq_iff (h : n < 256) : UInt8.ofNat n = a ↔ n = a.toNat := by
  rw [← UInt8.toNat_inj, UInt8.toNat_ofNat', Nat.mod_eq_of_lt h]

theorem continues_iff : continues b = true ↔ 0x80 ≤ b.toNat ∧ b.toNat < 0xC0 := by
  simp [continues, UInt8.le_iff_toNat_le, UInt8.lt_iff_toNat_lt]

theorem follows_iff : follows a b = true ↔ (0x80 ≤ b.toNat ∧ b.toNat < 0xC0) ∧
    (a.toNat = 0xE0 → 0xA0 ≤ b.toNat) ∧ (a.toNat = 0xED → b.toNat < 0xA0) ∧
    (a.toNat = 0xF0 → 0x90 ≤ b.toNat) ∧ (a.toNat = 0xF4 → b.toNat < 0x90) := by
  simp [follows, continues_iff, ← UInt8.toNat_inj, UInt8.le_iff_toNat_le, UInt8.lt_iff_toNat_lt]
  tauto

end Bytes

/-! ## One character -/

/-- The bytes are one character with this code point. -/
inductive Spells : List UInt8 → Nat → Prop
  | one {a : UInt8} (ha : a.toNat < 0x80) : Spells [a] a.toNat
  | two {a b : UInt8} (hle : 0xC2 ≤ a.toNat) (hlt : a.toNat < 0xE0) (hb : follows a b = true) :
    Spells [a, b] ((a.toNat - 0xC0) * 64 + low b)
  | three {a b c : UInt8} (hle : 0xE0 ≤ a.toNat) (hlt : a.toNat < 0xF0) (hb : follows a b = true)
    (hc : continues c = true) :
    Spells [a, b, c] (((a.toNat - 0xE0) * 64 + low b) * 64 + low c)
  | four {a b c d : UInt8} (hle : 0xF0 ≤ a.toNat) (hlt : a.toNat < 0xF5) (hb : follows a b = true)
    (hc : continues c = true) (hd : continues d = true) :
    Spells [a, b, c, d] ((((a.toNat - 0xF0) * 64 + low b) * 64 + low c) * 64 + low d)

section OneCharacter
variable {bytes rest : List UInt8} {n : Nat} {char : Char}

theorem Spells.decodeChar (h : Spells bytes n) (rest : List UInt8) :
    decodeChar (bytes ++ rest) = .ok (Char.ofNat n, bytes.length) := by
  cases h with
  | one ha => exact if_pos ha
  | two hle hlt hb =>
    simp only [Utf8.decodeChar, List.cons_append, UInt8.lt_iff_toNat_lt, UInt8.le_iff_toNat_le,
      UInt8.reduceToNat, ge_iff_le, hb, Bool.or_eq_true, decide_eq_true_iff, Bool.not_true]
    rw [if_neg (by omega), if_neg (by omega), if_neg (by decide), if_pos hlt]
    rfl
  | three hle hlt hb hc =>
    simp only [Utf8.decodeChar, List.cons_append, UInt8.lt_iff_toNat_lt, UInt8.le_iff_toNat_le,
      UInt8.reduceToNat, ge_iff_le, hb, hc, Bool.or_eq_true, decide_eq_true_iff, Bool.not_true]
    rw [if_neg (by omega), if_neg (by omega), if_neg (by decide), if_neg (by omega),
      if_neg (by decide), if_pos hlt]
    rfl
  | four hle hlt hb hc hd =>
    simp only [Utf8.decodeChar, List.cons_append, UInt8.lt_iff_toNat_lt, UInt8.le_iff_toNat_le,
      UInt8.reduceToNat, ge_iff_le, hb, hc, hd, Bool.or_eq_true, decide_eq_true_iff, Bool.not_true]
    rw [if_neg (by omega), if_neg (by omega), if_neg (by decide), if_neg (by omega),
      if_neg (by decide), if_neg (by omega), if_neg (by decide)]
    rfl

/-- A character is decoded from bytes that spell it. -/
theorem exists_spells_of_decodeChar {width : Nat} (h : decodeChar bytes = .ok (char, width)) :
    ∃ front n rest, bytes = front ++ rest ∧ Spells front n ∧ char = Char.ofNat n := by
  revert h
  fun_cases decodeChar bytes
  all_goals intro h
  all_goals cases h
  all_goals simp only [UInt8.lt_iff_toNat_lt, UInt8.le_iff_toNat_le, UInt8.reduceToNat, ge_iff_le,
    Bool.or_eq_true, decide_eq_true_iff, Bool.not_eq_true, Bool.not_eq_false'] at *
  case case2 a rest ha => exact ⟨[a], _, rest, rfl, .one ha, rfl⟩
  case case6 a b rest _ _ hb ha =>
    exact ⟨[a, b], _, rest, rfl, .two (by omega) ha hb, rfl⟩
  case case9 a b c rest _ _ hb _ hc ha =>
    exact ⟨[a, b, c], _, rest, rfl, .three (by omega) ha hb hc, rfl⟩
  case case12 a b c d rest _ _ hb _ hc _ hd =>
    exact ⟨[a, b, c, d], _, rest, rfl, .four (by omega) (by omega) hb hc hd, rfl⟩

/-- A number that is a code point, encoded as a character of so many bytes. -/
theorem encodeChar_ofNat (h : n.isValidChar) : utf8EncodeChar (Char.ofNat n) =
    if n ≤ 0x7F then [UInt8.ofNat n]
    else if n ≤ 0x7FF then [UInt8.ofNat (n / 64 % 32 + 192), UInt8.ofNat (n % 64 + 128)]
    else if n ≤ 0xFFFF then
      [UInt8.ofNat (n / 4096 % 16 + 224), UInt8.ofNat (n / 64 % 64 + 128),
        UInt8.ofNat (n % 64 + 128)]
    else
      [UInt8.ofNat (n / 262144 % 8 + 240), UInt8.ofNat (n / 4096 % 64 + 128),
        UInt8.ofNat (n / 64 % 64 + 128), UInt8.ofNat (n % 64 + 128)] := by
  have hn : (Char.ofNat n).val.toNat = n := toNat_ofNat h
  rw [utf8EncodeChar, hn]

theorem Spells.isValidChar (h : Spells bytes n) : n.isValidChar := by
  rw [isValidChar_iff]
  cases h with
  | one ha => omega
  | two hle hlt hb =>
    simp only [follows_iff] at hb
    simp only [low]
    omega
  | three hle hlt hb hc =>
    simp only [follows_iff, continues_iff] at hb hc
    simp only [low]
    omega
  | four hle hlt hb hc hd =>
    simp only [follows_iff, continues_iff] at hb hc hd
    simp only [low]
    omega

theorem Spells.encodeChar_eq (h : Spells bytes n) : utf8EncodeChar (Char.ofNat n) = bytes := by
  rw [encodeChar_ofNat h.isValidChar]
  have hlow (b : UInt8) : low b = b.toNat % 64 := rfl
  cases h with
  | one ha => rw [if_pos (by omega), (ofNat_eq_iff (by omega)).mpr rfl]
  | @two a b hle hlt hb =>
    have := hlow b
    rw [follows_iff] at hb
    rw [if_neg (by omega), if_pos (by omega)]
    congr <;> rw [ofNat_eq_iff] <;> omega
  | @three a b c hle hlt hb hc =>
    have := hlow b
    have := hlow c
    rw [follows_iff] at hb
    rw [continues_iff] at hc
    rw [if_neg (by omega), if_neg (by omega), if_pos (by omega)]
    congr <;> rw [ofNat_eq_iff] <;> omega
  | @four a b c d hle hlt hb hc hd =>
    have := hlow b
    have := hlow c
    have := hlow d
    rw [follows_iff] at hb
    rw [continues_iff] at hc hd
    rw [if_neg (by omega), if_neg (by omega), if_neg (by omega)]
    congr <;> rw [ofNat_eq_iff] <;> omega

theorem spells_encodeChar_ofNat (h : n.isValidChar) : Spells (utf8EncodeChar (Char.ofNat n)) n := by
  rw [encodeChar_ofNat h]
  rw [isValidChar_iff] at h
  have hbyte {m : Nat} (hm : m < 256) : (UInt8.ofNat m).toNat = m := by
    rw [UInt8.toNat_ofNat', Nat.mod_eq_of_lt hm]
  have hlow (b : UInt8) : low b = b.toNat % 64 := rfl
  split
  · have ha := hbyte (m := n) (by omega)
    generalize UInt8.ofNat n = a at ha ⊢
    rw [← ha]
    exact .one (by omega)
  split
  · have ha := hbyte (m := n / 64 % 32 + 192) (by omega)
    have hb := hbyte (m := n % 64 + 128) (by omega)
    generalize UInt8.ofNat (n / 64 % 32 + 192) = a at ha ⊢
    generalize UInt8.ofNat (n % 64 + 128) = b at hb ⊢
    obtain rfl : (a.toNat - 0xC0) * 64 + low b = n := by
      rw [hlow]
      omega
    exact .two (by omega) (by omega) (follows_iff.mpr (by omega))
  split
  · have ha := hbyte (m := n / 4096 % 16 + 224) (by omega)
    have hb := hbyte (m := n / 64 % 64 + 128) (by omega)
    have hc := hbyte (m := n % 64 + 128) (by omega)
    generalize UInt8.ofNat (n / 4096 % 16 + 224) = a at ha ⊢
    generalize UInt8.ofNat (n / 64 % 64 + 128) = b at hb ⊢
    generalize UInt8.ofNat (n % 64 + 128) = c at hc ⊢
    obtain rfl : ((a.toNat - 0xE0) * 64 + low b) * 64 + low c = n := by
      rw [hlow, hlow]
      omega
    exact .three (by omega) (by omega) (follows_iff.mpr (by omega)) (continues_iff.mpr (by omega))
  · have ha := hbyte (m := n / 262144 % 8 + 240) (by omega)
    have hb := hbyte (m := n / 4096 % 64 + 128) (by omega)
    have hc := hbyte (m := n / 64 % 64 + 128) (by omega)
    have hd := hbyte (m := n % 64 + 128) (by omega)
    generalize UInt8.ofNat (n / 262144 % 8 + 240) = a at ha ⊢
    generalize UInt8.ofNat (n / 4096 % 64 + 128) = b at hb ⊢
    generalize UInt8.ofNat (n / 64 % 64 + 128) = c at hc ⊢
    generalize UInt8.ofNat (n % 64 + 128) = d at hd ⊢
    obtain rfl : (((a.toNat - 0xF0) * 64 + low b) * 64 + low c) * 64 + low d = n := by
      rw [hlow, hlow, hlow]
      omega
    exact .four (by omega) (by omega) (follows_iff.mpr (by omega)) (continues_iff.mpr (by omega))
      (continues_iff.mpr (by omega))

theorem decodeChar_encodeChar (char : Char) (rest : List UInt8) :
    decodeChar (utf8EncodeChar char ++ rest) = .ok (char, (utf8EncodeChar char).length) := by
  have hspells := spells_encodeChar_ofNat char.valid
  have hself : Char.ofNat char.val.toNat = char := Char.ofNat_toNat char
  rw [hself] at hspells
  rw [hspells.decodeChar, hself]

theorem encodeChar_of_decodeChar {width : Nat} (h : decodeChar bytes = .ok (char, width)) :
    ∃ rest, bytes = utf8EncodeChar char ++ rest := by
  obtain ⟨front, n, rest, rfl, hspells, rfl⟩ := exists_spells_of_decodeChar h
  exact ⟨rest, by rw [hspells.encodeChar_eq]⟩

end OneCharacter

/-! ## Any number of characters -/

/-- The bytes of a text. -/
def encoding (cs : List Char) : List UInt8 := cs.flatMap utf8EncodeChar

theorem decodeFrom_skip (position skip : Nat) (bytes : List UInt8) :
    ∃ position', decodeFrom position skip bytes = decodeFrom position' 0 (bytes.drop skip) := by
  induction bytes generalizing position skip with
  | nil => exact ⟨position, by rw [List.drop_nil, decodeFrom, decodeFrom]⟩
  | cons b bytes ih =>
    cases skip with
    | zero => exact ⟨position, rfl⟩
    | succ skip => exact ih (position + 1) skip

/-- A character is decoded, and then what stands behind it. -/
theorem decodeFrom_encodeChar (position : Nat) (char : Char) (rest : List UInt8) :
    ∃ position', decodeFrom position 0 (utf8EncodeChar char ++ rest) =
      (decodeFrom position' 0 rest).map (char :: ·) := by
  have hchar := decodeChar_encodeChar char rest
  obtain ⟨b, bytes, hbytes⟩ : ∃ b bytes, utf8EncodeChar char = b :: bytes :=
    List.exists_cons_of_length_pos (String.length_utf8EncodeChar char ▸ char.utf8Size_pos)
  rw [hbytes, List.cons_append] at hchar ⊢
  obtain ⟨position', hskip⟩ := decodeFrom_skip (position + 1) bytes.length (bytes ++ rest)
  rw [List.drop_left] at hskip
  refine ⟨position', ?_⟩
  rw [decodeFrom, hchar, ← hskip]
  rfl

theorem exists_encodeChar_of_decodeFrom {cs : List Char} {position : Nat} {bytes : List UInt8}
    (h : decodeFrom position 0 bytes = .ok cs) :
    (bytes = [] ∧ cs = []) ∨ ∃ char rest, bytes = utf8EncodeChar char ++ rest := by
  cases bytes with
  | nil =>
    cases h
    exact .inl ⟨rfl, rfl⟩
  | cons b bytes =>
    rw [decodeFrom] at h
    split at h
    · cases h
    · next char width hchar =>
      obtain ⟨rest, hrest⟩ := encodeChar_of_decodeChar hchar
      exact .inr ⟨char, rest, hrest⟩

theorem decodeFrom_eq_ok_iff {cs : List Char} {position : Nat} {bytes : List UInt8} :
    decodeFrom position 0 bytes = .ok cs ↔ bytes = encoding cs := by
  constructor
  · intro h
    induction cs generalizing position bytes with
    | nil =>
      obtain ⟨rfl, -⟩ | ⟨char, rest, rfl⟩ := exists_encodeChar_of_decodeFrom h
      · rfl
      · obtain ⟨position', hstep⟩ := decodeFrom_encodeChar position char rest
        rw [hstep] at h
        cases hrest : decodeFrom position' 0 rest <;> rw [hrest] at h <;> cases h
    | cons c cs ih =>
      obtain ⟨-, hnil⟩ | ⟨char, rest, rfl⟩ := exists_encodeChar_of_decodeFrom h
      · cases hnil
      · obtain ⟨position', hstep⟩ := decodeFrom_encodeChar position char rest
        rw [hstep] at h
        cases hrest : decodeFrom position' 0 rest with
        | error f =>
          rw [hrest] at h
          cases h
        | ok cs' =>
          rw [hrest] at h
          cases h
          rw [ih hrest, encoding, encoding, List.flatMap_cons]
  · rintro rfl
    induction cs generalizing position with
    | nil => rfl
    | cons c cs ih =>
      obtain ⟨position', hstep⟩ := decodeFrom_encodeChar position c (encoding cs)
      rw [encoding, List.flatMap_cons]
      exact hstep.trans (by rw [ih]; rfl)

theorem decode_eq_ok_iff {cs : List Char} {bytes : List UInt8} :
    decode bytes = .ok cs ↔ bytes = encoding cs := decodeFrom_eq_ok_iff

/-- Bytes are refused just if they are no text in UTF-8. -/
theorem exists_decode_eq_error_iff {bytes : List UInt8} :
    (∃ f, decode bytes = .error f) ↔ ∀ cs, bytes ≠ encoding cs := by
  simp only [ne_eq, ← decode_eq_ok_iff]
  cases decode bytes <;> simp

end ServiceContracts.Text.Utf8
