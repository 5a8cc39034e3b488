import Mathlib.Data.List.Induction
import Mathlib.Data.Prod.Lex
import Mathlib.Order.WithBot
import ServiceContracts.Dependency.Conflict

/-!
# The declaration with which a repository counts

Versions are ordered by their three components, and a text that spells no version is below all that
spell one. A declaration takes the place of another one just if its text ranks higher, so of several
declarations the first of the highest rank is left.

* `Version.triple`, `Version.lt_iff` : the order of versions;
* `IsReadable`, `read_eq_ok` : texts that are read without running over the limit of digits;
* `isNewer_eq_ok` : newer is what ranks higher;
* `IsChosen` : the first declaration of the highest version, or the first one of all;
* `isChosen_iff`, `IsChosen.unique`, `exists_isChosen` : it is the first one of the highest rank.
-/

namespace ServiceContracts.Dependency
open Number

/-! ## Versions that are read -/

/-- The components of a version in lexicographic order. -/
def Version.triple (v : Version) : ℕ ×ₗ ℕ ×ₗ ℕ := toLex (v.major, toLex (v.minor, v.patch))

theorem Version.lt_iff {a b : Version} : Version.lt a b = true ↔ a.triple < b.triple := by
  simp [Version.lt, Version.triple, Prod.Lex.toLex_lt_toLex]

/-- No component of the version that the text spells, if it spells one, has too many digits. -/
def IsReadable (text : String) : Prop :=
  ∀ digits ∈ Version.digits? text.toList, digits.1.length ≤ digitLimit ∧
    digits.2.1.length ≤ digitLimit ∧ digits.2.2.length ≤ digitLimit

instance : DecidablePred IsReadable := fun text =>
  inferInstanceAs (Decidable (∀ digits ∈ Version.digits? text.toList, _))

/-- The version that a text spells. -/
def version? (text : String) : Option Version := (Version.read text).toOption.join

section Read
variable {text other : String}

theorem readNat_eq_ok {digits : List Char} (h : digits.length ≤ digitLimit) :
    readNat digits = .ok (Text.decimalValue digits) :=
  if_neg (Nat.not_lt.mpr h)

theorem read_eq_ok (h : IsReadable text) : Version.read text = .ok (version? text) := by
  have hread : ∃ v, Version.read text = .ok v := by
    rw [Version.read, Version.readChars]
    split
    · exact ⟨none, rfl⟩
    · next major minor patch hdigits =>
      obtain ⟨hmajor, hminor, hpatch⟩ := h _ hdigits
      rw [readNat_eq_ok hmajor, readNat_eq_ok hminor, readNat_eq_ok hpatch]
      exact ⟨_, rfl⟩
  obtain ⟨v, hv⟩ := hread
  rw [version?, hv]
  cases v <;> rfl

/-- The place of a text in the order of versions; a text that spells none is below all others. -/
def rank (text : String) : WithBot (ℕ ×ₗ ℕ ×ₗ ℕ) :=
  match version? text with
  | some v => v.triple
  | none => ⊥

theorem rank_eq_bot_iff : rank text = ⊥ ↔ version? text = none := by
  unfold rank
  split
  · next h => simp [h]
  · next h => simp [h]

theorem rank_of_version? {v : Version} (h : version? text = some v) : rank text = v.triple := by
  rw [rank, h]

theorem rank_lt_iff {v : Version} (h : version? other = some v) :
    rank text < rank other ↔ ∀ w, version? text = some w → w.triple < v.triple := by
  rw [rank_of_version? h]
  cases htext : version? text with
  | none => simp [rank_eq_bot_iff.mpr htext]
  | some w => simp [rank_of_version? htext]

theorem rank_le_iff {v : Version} (h : version? other = some v) :
    rank text ≤ rank other ↔ ∀ w, version? text = some w → w.triple ≤ v.triple := by
  rw [rank_of_version? h]
  cases htext : version? text with
  | none => simp [rank_eq_bot_iff.mpr htext]
  | some w => simp [rank_of_version? htext]

theorem isNewer_eq_ok (htext : IsReadable text) (hother : IsReadable other) :
    Version.isNewer text other = .ok (decide (rank other < rank text)) := by
  rw [Version.isNewer, read_eq_ok htext, read_eq_ok hother]
  cases hnew : version? text with
  | none =>
    rw [rank_eq_bot_iff.mpr hnew]
    simp [bind, Except.bind]
  | some v =>
    cases hold : version? other with
    | none =>
      rw [rank_eq_bot_iff.mpr hold, rank_of_version? hnew]
      simp [bind, Except.bind]
    | some w =>
      rw [rank_of_version? hold, rank_of_version? hnew]
      simp [bind, Except.bind, ← Version.lt_iff]

end Read

/-! ## The first declaration of the highest rank -/

/-- The declaration with which some declarations count. -/
inductive IsChosen (ds : List Declaration) (d : Declaration) : Prop where
  /-- Of the versions that are spelled none is higher, and none in front of it is as high. -/
  | highest {front back : List Declaration} {v : Version} :
      ds = front ++ d :: back → version? (versionText d.version) = some v →
      (∀ e ∈ front, ∀ w, version? (versionText e.version) = some w → w.triple < v.triple) →
      (∀ e ∈ back, ∀ w, version? (versionText e.version) = some w → w.triple ≤ v.triple) →
      IsChosen ds d
  /-- No version is spelled, and it is the first declaration. -/
  | first {back : List Declaration} :
      ds = d :: back → (∀ e ∈ ds, version? (versionText e.version) = none) → IsChosen ds d

section Chosen
variable {ds : List Declaration} {d d' : Declaration}

theorem isChosen_iff : IsChosen ds d ↔ ∃ front back, ds = front ++ d :: back ∧
    (∀ e ∈ front, rank (versionText e.version) < rank (versionText d.version)) ∧
    ∀ e ∈ back, rank (versionText e.version) ≤ rank (versionText d.version) := by
  constructor
  · rintro (⟨hds, hv, hfront, hback⟩ | ⟨rfl, hnone⟩)
    · exact ⟨_, _, hds, fun e he => (rank_lt_iff hv).mpr (hfront e he),
        fun e he => (rank_le_iff hv).mpr (hback e he)⟩
    · refine ⟨[], _, rfl, by simp, fun e he => ?_⟩
      rw [rank_eq_bot_iff.mpr (hnone e (List.mem_cons_of_mem _ he))]
      exact bot_le
  · rintro ⟨front, back, rfl, hfront, hback⟩
    cases hv : version? (versionText d.version) with
    | some v =>
      exact .highest rfl hv (fun e he => (rank_lt_iff hv).mp (hfront e he))
        fun e he => (rank_le_iff hv).mp (hback e he)
    | none =>
      rw [rank_eq_bot_iff.mpr hv] at hfront hback
      obtain rfl : front = [] :=
        List.eq_nil_iff_forall_not_mem.mpr fun e he => not_lt_bot (hfront e he)
      refine .first rfl fun e he => ?_
      rcases List.mem_cons.mp he with rfl | he
      · exact hv
      · exact rank_eq_bot_iff.mp (le_bot_iff.mp (hback e he))

theorem IsChosen.mem (h : IsChosen ds d) : d ∈ ds := by
  obtain ⟨front, back, rfl, -⟩ := isChosen_iff.mp h
  simp

theorem IsChosen.rank_le (h : IsChosen ds d) :
    ∀ e ∈ ds, rank (versionText e.version) ≤ rank (versionText d.version) := by
  obtain ⟨front, back, rfl, hfront, hback⟩ := isChosen_iff.mp h
  intro e he
  rcases List.mem_append.mp he with he | he
  · exact (hfront e he).le
  · rcases List.mem_cons.mp he with rfl | he
    · exact le_rfl
    · exact hback e he

/-- No other declaration is chosen: of two, neither can come in front of the other. -/
theorem IsChosen.unique (h : IsChosen ds d) (h' : IsChosen ds d') : d = d' := by
  obtain ⟨front, back, rfl, hfront, -⟩ := isChosen_iff.mp h
  obtain ⟨front', back', heq, hfront', -⟩ := isChosen_iff.mp h'
  obtain ⟨more, rfl, hmore⟩ | ⟨more, rfl, hmore⟩ := List.append_eq_append_iff.mp heq
  · cases more with
    | nil => exact (List.cons.inj hmore).1
    | cons e more =>
      obtain ⟨rfl, -⟩ := List.cons.inj hmore
      exact absurd (h.rank_le d' h'.mem) (not_le.mpr (hfront' d (by simp)))
  · cases more with
    | nil => exact (List.cons.inj hmore).1.symm
    | cons e more =>
      obtain ⟨rfl, -⟩ := List.cons.inj hmore
      exact absurd (h'.rank_le d h.mem) (not_le.mpr (hfront d' (by simp)))

theorem isChosen_singleton (d : Declaration) : IsChosen [d] d :=
  isChosen_iff.mpr ⟨[], [], rfl, by simp, by simp⟩

/-- One more declaration is chosen just if it ranks higher than the one so far. -/
theorem IsChosen.concat (h : IsChosen ds d) (e : Declaration) : IsChosen (ds ++ [e])
    (if rank (versionText d.version) < rank (versionText e.version) then e else d) := by
  split
  · next hlt =>
    exact isChosen_iff.mpr ⟨ds, [], rfl, fun e' he' => (h.rank_le e' he').trans_lt hlt, by simp⟩
  · next hge =>
    obtain ⟨front, back, rfl, hfront, hback⟩ := isChosen_iff.mp h
    refine isChosen_iff.mpr ⟨front, back ++ [e], by simp, hfront, fun e' he' => ?_⟩
    rcases List.mem_append.mp he' with he' | he'
    · exact hback e' he'
    · rw [List.mem_singleton.mp he']
      exact not_lt.mp hge

theorem exists_isChosen (h : ds ≠ []) : ∃ d, IsChosen ds d := by
  induction ds using List.reverseRecOn with
  | nil => exact absurd rfl h
  | append_singleton ds e ih =>
    by_cases hds : ds = []
    · rw [hds]
      exact ⟨e, isChosen_singleton e⟩
    · obtain ⟨d, hd⟩ := ih hds
      exact ⟨_, hd.concat e⟩

end Chosen

end ServiceContracts.Dependency
