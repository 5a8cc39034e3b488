import Mathlib.Data.List.Basic
import Mathlib.Data.List.Induction
import ServiceContracts.Distinct

/-!
# Repetitions left out

* `FirstOfEach`, `firstOfEach_distinctBy` : the first item of each key is kept, and no other one;
* `distinct_of_nodup` : without repetitions, nothing is left out;
* `distinct_append_left`, `distinct_append_right` : repetitions may be left out of a part first;
* `pairwise_idxOf_distinct` : the order of what is kept.
-/

namespace ServiceContracts

variable {α β : Type} [DecidableEq β]

/-- The first item of each key among `as`, in order. -/
structure FirstOfEach (key : α → β) (as firsts : List α) : Prop where
  order : firsts.Sublist as
  once : (firsts.map key).Nodup
  every : ∀ a ∈ as, key a ∈ firsts.map key
  first : ∀ a ∈ firsts, ∃ before after, as = before ++ a :: after ∧ key a ∉ before.map key

/-- Before an item that is kept there is none with its key. -/
theorem exists_eq_append_of_mem_distinctBy {key : α → β} {as : List α} {a : α}
    (h : a ∈ distinctBy key as) :
    ∃ before after, as = before ++ a :: after ∧ key a ∉ before.map key := by
  induction as using List.reverseRecOn with
  | nil => cases h
  | append_singleton as last ih =>
    rw [distinctBy_concat, List.mem_append] at h
    obtain h | h := h
    · obtain ⟨before, after, rfl, hfirst⟩ := ih h
      exact ⟨before, after ++ [last], List.append_assoc _ _ _, hfirst⟩
    · split at h
      · cases h
      · next hnew =>
        obtain rfl := List.mem_singleton.mp h
        exact ⟨as, [], rfl, hnew⟩

theorem firstOfEach_distinctBy (key : α → β) (as : List α) :
    FirstOfEach key as (distinctBy key as) :=
  { order := distinctByFrom_sublist key [] as
    once := nodup_distinctByFrom key [] as
    every := fun _ ha => mem_map_distinctBy.mpr (List.mem_map_of_mem ha)
    first := fun _ ha => exists_eq_append_of_mem_distinctBy ha }

theorem distinct_of_nodup {bs : List β} (h : bs.Nodup) : distinct bs = bs := by
  induction bs using List.reverseRecOn with
  | nil => rfl
  | append_singleton bs b ih =>
    obtain ⟨hbs, -, hdisjoint⟩ := List.nodup_append.mp h
    have hb : b ∉ bs := fun hb => hdisjoint b hb b (List.mem_singleton_self b) rfl
    rw [distinct_concat, ih hbs, if_neg hb]

theorem distinct_append_left (as bs : List β) :
    distinct (distinct as ++ bs) = distinct (as ++ bs) := by
  induction bs using List.reverseRecOn with
  | nil =>
    rw [List.append_nil, List.append_nil]
    exact distinct_of_nodup (nodup_distinct as)
  | append_singleton bs b ih =>
    rw [← List.append_assoc, ← List.append_assoc, distinct_concat, distinct_concat, ih]
    simp only [List.mem_append, mem_distinct]

theorem distinct_append_right (as bs : List β) :
    distinct (as ++ distinct bs) = distinct (as ++ bs) := by
  induction bs using List.reverseRecOn with
  | nil => rfl
  | append_singleton bs b ih =>
    rw [← List.append_assoc, distinct_concat, distinct_concat]
    by_cases hb : b ∈ bs
    · rw [if_pos hb, if_pos (List.mem_append_right as hb), List.append_nil, List.append_nil, ih]
    · rw [if_neg hb, ← List.append_assoc, distinct_concat, ih]
      simp only [List.mem_append, mem_distinct]

/-- The items are kept in the order of their first occurrences. -/
theorem pairwise_idxOf_distinct (bs : List β) :
    (distinct bs).Pairwise fun b c => bs.idxOf b < bs.idxOf c := by
  induction bs using List.reverseRecOn with
  | nil => exact .nil
  | append_singleton bs b ih =>
    have hplace : ∀ c ∈ distinct bs, (bs ++ [b]).idxOf c = bs.idxOf c := fun c hc =>
      List.idxOf_append_of_mem (mem_distinct.mp hc)
    have hkept : (distinct bs).Pairwise fun c d => (bs ++ [b]).idxOf c < (bs ++ [b]).idxOf d :=
      ih.imp_of_mem fun hc hd hlt => by rwa [hplace _ hc, hplace _ hd]
    rw [distinct_concat]
    split
    · rwa [List.append_nil]
    · next hb =>
      refine List.pairwise_append.mpr ⟨hkept, List.pairwise_singleton _ _, fun c hc d hd => ?_⟩
      obtain rfl := List.mem_singleton.mp hd
      rw [hplace c hc, List.idxOf_append_of_notMem hb]
      exact Nat.lt_add_right _ (List.idxOf_lt_length_of_mem (mem_distinct.mp hc))

end ServiceContracts
