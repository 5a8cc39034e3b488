import Mathlib.Data.Prod.Lex
import ServiceContracts.Proofs.Matching.Decision

/-!
# Which row answers, and which methods are offered instead

* `precedence` : the measure by which rows compete, their specificity and then their order;
* `best?_eq_some_iff` : among rows of different precedence the best one is the least of them;
* `Competes`, `answer?_eq_none_iff`, `answer?_eq_some_iff` : the row that answers a call;
* `mem_supported`, `pairwise_supported`, `supported_congr` : the methods that are offered instead,
  which depend on the rows alone and not on their places;
* `fresh_getElem?`, `exists_mem_fresh`, `answer?_fresh_eq_none_iff`, `mem_supported_fresh` : the
  same for the fresh table of given rows.
-/

namespace ServiceContracts.Matching
open Mount

/-! ## The best of several rows -/

/-- How specific a row is and, among equally specific ones, when it was registered. -/
def precedence (r : Row) : Nat ×ₗ Int := toLex (Route.specificity r.fullPath, r.order)

theorem precedes_iff {a b : Row} : precedes a b = true ↔ precedence a < precedence b := by
  rw [precedence, precedence, Prod.Lex.toLex_lt_toLex]
  simp [precedes]

theorem precedence_unmarked (r : Row) :
    precedence { r with consumed := false } = precedence r := rfl

section Best
variable {places : List Place}

theorem bestFrom_mem (best : Place) (places : List Place) :
    bestFrom best places ∈ best :: places := by
  induction places generalizing best with
  | nil => exact List.mem_cons_self
  | cons p places ih =>
    rw [bestFrom]
    split
    · exact List.mem_cons_of_mem best (ih p)
    · have hmem := ih best
      simp only [List.mem_cons] at hmem ⊢
      exact hmem.imp_right .inr

/-- No row precedes the best one. -/
theorem precedence_bestFrom_le (best : Place) (places : List Place) :
    ∀ p ∈ best :: places, precedence (bestFrom best places).1 ≤ precedence p.1 := by
  induction places generalizing best with
  | nil =>
    intro p hp
    cases List.mem_singleton.mp hp
    exact le_rfl
  | cons q places ih =>
    rw [bestFrom]
    split
    · next hlt =>
      obtain ⟨hq, hplaces⟩ := List.forall_mem_cons.mp (ih q)
      have hbest := hq.trans (precedes_iff.mp hlt).le
      exact List.forall_mem_cons.mpr ⟨hbest, List.forall_mem_cons.mpr ⟨hq, hplaces⟩⟩
    · next hlt =>
      obtain ⟨hbest, hplaces⟩ := List.forall_mem_cons.mp (ih best)
      have hq := hbest.trans (not_lt.mp (mt precedes_iff.mpr hlt))
      exact List.forall_mem_cons.mpr ⟨hbest, List.forall_mem_cons.mpr ⟨hq, hplaces⟩⟩

theorem best?_eq_none_iff : best? places = none ↔ places = [] := by
  cases places with
  | nil => exact iff_of_true rfl rfl
  | cons p places => exact iff_of_false (Option.some_ne_none _) (List.cons_ne_nil p places)

theorem best?_mem {q : Place} (h : best? places = some q) :
    q ∈ places ∧ ∀ p ∈ places, precedence q.1 ≤ precedence p.1 := by
  cases places with
  | nil => cases h
  | cons p places =>
    cases h
    exact ⟨bestFrom_mem p places, precedence_bestFrom_le p places⟩

/-- If no two places have the same precedence, then the best one is the only least one. -/
theorem best?_eq_some_iff
    (hinj : ∀ p ∈ places, ∀ q ∈ places, precedence p.1 = precedence q.1 → p = q) {q : Place} :
    best? places = some q ↔ q ∈ places ∧ ∀ p ∈ places, p ≠ q → precedence q.1 < precedence p.1 := by
  constructor
  · intro h
    obtain ⟨hq, hleast⟩ := best?_mem h
    refine ⟨hq, fun p hp hne => lt_of_le_of_ne (hleast p hp) fun heq => hne ?_⟩
    exact (hinj q hq p hp heq).symm
  · rintro ⟨hq, hleast⟩
    cases hbest : best? places with
    | none =>
      rw [best?_eq_none_iff.mp hbest] at hq
      cases hq
    | some p =>
      obtain ⟨hp, hp'⟩ := best?_mem hbest
      by_contra hne
      have hlt := hleast p hp fun heq => hne (congrArg some heq)
      exact absurd (hp' q hq) (not_le.mpr hlt)

end Best

/-! ## The row that answers -/

/-- The row takes calls with this method to this path. -/
def Competes (v : Verb) (path : String) (r : Row) : Prop :=
  (r.method = v.name ∨ r.method = Verb.any) ∧ Route.serves r.fullPath path = true

section Answer
variable {table : List Place} {v : Verb} {path : String}

theorem competes_unmarked {r : Row} :
    Competes v path { r with consumed := false } ↔ Competes v path r := Iff.rfl

/-- The places that are asked for an answer. -/
def candidates (table : List Place) (v : Verb) (path : String) : List Place :=
  serving table v.name path ++ serving table Verb.any path

theorem mem_candidates {p : Place} :
    p ∈ candidates table v path ↔ p ∈ table ∧ Competes v path p.1 := by
  simp only [candidates, serving, Competes, List.mem_append, List.mem_filter, Bool.and_eq_true,
    beq_iff_eq]
  tauto

theorem answer?_eq_none_iff :
    answer? table v path = none ↔ ¬ ∃ p ∈ table, Competes v path p.1 := by
  have hnone : answer? table v path = none ↔ candidates table v path = [] := best?_eq_none_iff
  rw [hnone, List.eq_nil_iff_forall_not_mem]
  simp only [mem_candidates, not_exists]

theorem answer?_eq_some_iff
    (hinj : ∀ p ∈ table, ∀ q ∈ table, precedence p.1 = precedence q.1 → p = q) {q : Place} :
    answer? table v path = some q ↔ (q ∈ table ∧ Competes v path q.1) ∧
      ∀ p ∈ table, Competes v path p.1 → p ≠ q → precedence q.1 < precedence p.1 := by
  have hsub : ∀ p ∈ candidates table v path, p ∈ table := fun p hp => (mem_candidates.mp hp).1
  have hbest : answer? table v path = some q ↔ best? (candidates table v path) = some q := Iff.rfl
  rw [hbest, best?_eq_some_iff fun p hp p' hp' => hinj p (hsub p hp) p' (hsub p' hp')]
  simp only [mem_candidates, and_imp]

end Answer

/-! ## The methods that are offered instead -/

section Supported
variable {table table' : List Place} {v : Verb} {path : String}

theorem mem_supported {method : String} : method ∈ supported table v path ↔
    method ≠ v.name ∧ ∃ p ∈ table, p.1.method = method ∧ Route.serves p.1.fullPath path = true := by
  simp only [supported, List.mem_mergeSort, mem_distinct, List.mem_map, List.mem_filter,
    Bool.and_eq_true, bne_iff_ne]
  constructor
  · rintro ⟨p, ⟨hp, hne, hserves⟩, rfl⟩
    exact ⟨hne, p, hp, rfl, hserves⟩
  · rintro ⟨hne, p, hp, rfl, hserves⟩
    exact ⟨p, ⟨hp, hne, hserves⟩, rfl⟩

theorem nodup_supported (table : List Place) (v : Verb) (path : String) :
    (supported table v path).Nodup :=
  (List.mergeSort_perm _ _).nodup_iff.mpr (nodup_distinct _)

theorem pairwise_precedes_supported (table : List Place) (v : Verb) (path : String) :
    (supported table v path).Pairwise fun a b => Verb.precedes a b = true := by
  rw [supported]
  apply List.pairwise_mergeSort
  · intro a b c
    exact Verb.precedes_trans
  · exact Verb.precedes_total

theorem pairwise_supported (table : List Place) (v : Verb) (path : String) :
    (supported table v path).Pairwise Verb.Before :=
  (pairwise_precedes_supported table v path).imp₂ (fun _ _ => Verb.before_of_precedes)
    (nodup_supported table v path)

/-- Two tables with the same rows offer the same methods. -/
theorem supported_congr (h : ∀ r, r ∈ table.map Prod.fst ↔ r ∈ table'.map Prod.fst) :
    supported table v path = supported table' v path := by
  have hexists : ∀ P : Row → Prop, (∃ p ∈ table, P p.1) ↔ ∃ p ∈ table', P p.1 := by
    intro P
    have hmap : ∀ t : List Place, (∃ p ∈ t, P p.1) ↔ ∃ r ∈ t.map Prod.fst, P r := by
      intro t
      simp only [List.mem_map, exists_exists_and_eq_and]
    rw [hmap, hmap]
    simp only [h]
  have hperm : (supported table v path).Perm (supported table' v path) := by
    apply (List.perm_ext_iff_of_nodup (nodup_supported _ _ _) (nodup_supported _ _ _)).mpr
    intro method
    rw [mem_supported, mem_supported]
    exact and_congr_right fun _ => hexists fun r => r.method = method ∧ Route.serves r.fullPath path
  exact hperm.eq_of_pairwise (fun a b _ _ => Verb.precedes_antisymm)
    (pairwise_precedes_supported _ _ _) (pairwise_precedes_supported _ _ _)

end Supported

/-! ## Fresh tables -/

section Fresh
variable {rows : List Row} {v : Verb} {path : String}

theorem fresh_getElem? (rows : List Row) (i : Nat) :
    (fresh rows)[i]? = rows[i]?.map fun r => ({ r with consumed := false }, i) := by
  rw [fresh, List.getElem?_zipIdx, List.getElem?_map]
  cases rows[i]? <;> simp

theorem mem_fresh {p : Place} :
    p ∈ fresh rows ↔ ∃ r, rows[p.2]? = some r ∧ p.1 = { r with consumed := false } := by
  rw [fresh, List.mem_zipIdx_iff_getElem?, List.getElem?_map, Option.map_eq_some_iff]
  simp only [eq_comm]

/-- What does not concern the flags holds of a row of the table if it holds of a given one. -/
theorem exists_mem_fresh {P : Row → Prop} (hP : ∀ r, P { r with consumed := false } ↔ P r) :
    (∃ p ∈ fresh rows, P p.1) ↔ ∃ r ∈ rows, P r := by
  constructor
  · rintro ⟨p, hp, h⟩
    obtain ⟨r, hr, heq⟩ := mem_fresh.mp hp
    rw [heq, hP] at h
    exact ⟨r, List.mem_of_getElem? hr, h⟩
  · rintro ⟨r, hr, h⟩
    obtain ⟨i, hi⟩ := List.mem_iff_getElem?.mp hr
    exact ⟨({ r with consumed := false }, i), mem_fresh.mpr ⟨r, hi, rfl⟩, (hP r).mpr h⟩

theorem answer?_fresh_eq_none_iff :
    answer? (fresh rows) v path = none ↔ ¬ ∃ r ∈ rows, Competes v path r := by
  rw [answer?_eq_none_iff, exists_mem_fresh fun _ => Iff.rfl]

theorem mem_supported_fresh {method : String} : method ∈ supported (fresh rows) v path ↔
    method ≠ v.name ∧ ∃ r ∈ rows, r.method = method ∧ Route.serves r.fullPath path = true := by
  let P (r : Row) : Prop := r.method = method ∧ Route.serves r.fullPath path = true
  have hrows : (∃ p ∈ fresh rows, P p.1) ↔ ∃ r ∈ rows, P r := exists_mem_fresh fun _ => Iff.rfl
  rw [mem_supported]
  exact and_congr_right fun _ => hrows

end Fresh

end ServiceContracts.Matching
