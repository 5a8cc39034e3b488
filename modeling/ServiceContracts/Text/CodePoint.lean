/-!
# Code points of a text

An escape in a document may name a surrogate, a code point that is no character on its own. A text
holds it as two characters: a mark, which is the last code point `U+10FFFF`, and a stand-in from the
private use area of plane 15. The mark itself is doubled, so no two texts are confused.

* `ofCode`, `ofChars` : how code points and characters are held in a text;
* `codes` : the code points that a text holds;
* `hasSurrogate` : one of them is no character, so the text cannot be encoded;
* `IsBefore`, `precedes` : the order of texts, by their code points.
-/

namespace ServiceContracts.Text

/-- A code point that is half of a pair, and no character. -/
def isSurrogate (n : Nat) : Bool := 0xD800 ≤ n && n ≤ 0xDFFF

/-- The character in front of a stand-in. -/
def mark : Char := Char.ofNat 0x10FFFF

/-- The character that stands for a surrogate behind a mark. -/
def standIn (n : Nat) : Char := Char.ofNat (0xE2800 + n)

/-- The surrogate that a stand-in stands for. -/
def surrogateOf? (c : Char) : Option Nat :=
  if 0xF0000 ≤ c.toNat && c.toNat ≤ 0xF07FF then some (c.toNat - 0xE2800) else none

def ofCode (n : Nat) : List Char :=
  if isSurrogate n then [mark, standIn n]
  else if n = 0x10FFFF then [mark, mark]
  else [Char.ofNat n]

def ofChars (cs : List Char) : List Char :=
  cs.flatMap fun c => if c = mark then [mark, mark] else [c]

def codes : List Char → List Nat
  | [] => []
  | [c] => [c.toNat]
  | c :: d :: cs =>
    if c = mark then
      if d = mark then 0x10FFFF :: codes cs
      else match surrogateOf? d with
        | some n => n :: codes cs
        | none => 0x10FFFF :: codes (d :: cs)
    else c.toNat :: codes (d :: cs)

def hasSurrogate (s : String) : Bool := (codes s.toList).any isSurrogate

theorem toNat_ofNat {n : Nat} (h : n.isValidChar) : (Char.ofNat n).toNat = n := by
  rw [Char.ofNat, dif_pos h]
  rfl

theorem isValidChar_iff (n : Nat) :
    n.isValidChar ↔ n < 0xD800 ∨ (0xDFFF < n ∧ n < 0x110000) := Iff.rfl

/-! ## The order of texts -/

/-- The code points of a text come in front of those of another one. -/
def IsBefore (a b : String) : Prop := List.Lex (· < ·) (codes a.toList) (codes b.toList)

instance (a b : String) : Decidable (IsBefore a b) :=
  inferInstanceAs (Decidable (List.Lex (· < ·) (codes a.toList) (codes b.toList)))

/-- Texts come in the order of their code points. A mark without a stand-in or a second mark is no
code point of its own: texts that differ in such marks only come by their characters. -/
def precedes (a b : String) : Bool :=
  IsBefore a b || (codes a.toList == codes b.toList && a ≤ b)

section Order
variable {a b c : String}

theorem IsBefore.asymm (h : IsBefore a b) : ¬ IsBefore b a := List.lex_asymm Nat.lt_asymm h

theorem IsBefore.trans (hab : IsBefore a b) (hbc : IsBefore b c) : IsBefore a c :=
  List.lex_trans Nat.lt_trans hab hbc

theorem not_isBefore_of_codes_eq (h : codes a.toList = codes b.toList) : ¬ IsBefore a b := by
  rw [IsBefore, h]
  exact List.lex_irrefl Nat.lt_irrefl _

theorem codes_eq_of_not_isBefore (hab : ¬ IsBefore a b) (hba : ¬ IsBefore b a) :
    codes a.toList = codes b.toList :=
  List.lex_trichotomous (fun _ _ h h' => Nat.le_antisymm (Nat.not_lt.mp h') (Nat.not_lt.mp h))
    hba hab

theorem precedes_iff : precedes a b = true ↔
    IsBefore a b ∨ codes a.toList = codes b.toList ∧ a ≤ b := by
  simp [precedes]

theorem precedes_refl (a : String) : precedes a a = true :=
  precedes_iff.mpr (.inr ⟨rfl, String.le_refl a⟩)

theorem precedes_trans (hab : precedes a b = true) (hbc : precedes b c = true) :
    precedes a c = true := by
  rw [precedes_iff] at *
  obtain hlt | ⟨heq, hle⟩ := hab <;> obtain hlt' | ⟨heq', hle'⟩ := hbc
  · exact .inl (hlt.trans hlt')
  · rw [IsBefore, heq'] at hlt
    exact .inl hlt
  · rw [IsBefore, ← heq] at hlt'
    exact .inl hlt'
  · exact .inr ⟨heq.trans heq', String.le_trans hle hle'⟩

theorem precedes_total (a b : String) : precedes a b = true ∨ precedes b a = true := by
  rw [precedes_iff, precedes_iff]
  by_cases hab : IsBefore a b
  · exact .inl (.inl hab)
  by_cases hba : IsBefore b a
  · exact .inr (.inl hba)
  have heq := codes_eq_of_not_isBefore hab hba
  exact (String.le_total a b).imp (fun hle => .inr ⟨heq, hle⟩) fun hle => .inr ⟨heq.symm, hle⟩

theorem precedes_antisymm (hab : precedes a b = true) (hba : precedes b a = true) : a = b := by
  rw [precedes_iff] at hab hba
  obtain hlt | ⟨heq, hle⟩ := hab <;> obtain hlt' | ⟨heq', hle'⟩ := hba
  · exact absurd hlt' hlt.asymm
  · exact absurd hlt (not_isBefore_of_codes_eq heq'.symm)
  · exact absurd hlt' (not_isBefore_of_codes_eq heq.symm)
  · exact String.le_antisymm hle hle'

theorem not_isBefore_of_precedes (h : precedes a b = true) : ¬ IsBefore b a := by
  obtain hlt | ⟨heq, -⟩ := precedes_iff.mp h
  · exact hlt.asymm
  · exact not_isBefore_of_codes_eq heq.symm

end Order

end ServiceContracts.Text
