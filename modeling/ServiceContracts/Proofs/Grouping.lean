import ServiceContracts.Distinct

/-!
# Grouping

Items are taken one after another into the groups of their keys. The groups then stand in the order
in which their keys came up, and each is what its own items make of it.

* `TakesIn` : how an item is taken into a list of groups, one constructor for each way;
* `IsGrouping` : the groups that a list of items makes;
* `IsGrouping.concat` : one more item;
* `IsGrouping.eq_map` : the groups as a function of their keys.
-/

namespace ServiceContracts

variable {α β γ : Type}

/-- How an item with the key `b` is taken into groups: the group with its key grows, or a fresh
group comes last. -/
inductive TakesIn (key : γ → β) (b : β) (fresh : γ → Prop) (grows : γ → γ → Prop) :
    List γ → List γ → Prop where
  | last {g : γ} : fresh g → TakesIn key b fresh grows [] [g]
  | here {g g' : γ} {gs : List γ} : key g = b → grows g g' →
      TakesIn key b fresh grows (g :: gs) (g' :: gs)
  | there {g : γ} {gs gs' : List γ} : key g ≠ b → TakesIn key b fresh grows gs gs' →
      TakesIn key b fresh grows (g :: gs) (g :: gs')

namespace TakesIn
variable {key : γ → β} {b : β} {fresh : γ → Prop} {grows : γ → γ → Prop} {gs gs' : List γ}

theorem map_key [DecidableEq β] (h : TakesIn key b fresh grows gs gs')
    (hfresh : ∀ g, fresh g → key g = b)
    (hgrows : ∀ g g', key g = b → grows g g' → key g' = b) :
    gs'.map key = gs.map key ++ if b ∈ gs.map key then [] else [b] := by
  induction h with
  | last hg => simp [hfresh _ hg]
  | here hkey hg => simp [hgrows _ _ hkey hg, hkey]
  | there hkey _ ih => simp [ih, Ne.symm hkey]

/-- A group of another key stays as it is. -/
theorem mem_of_key_ne (h : TakesIn key b fresh grows gs gs') (hfresh : ∀ g, fresh g → key g = b)
    (hgrows : ∀ g g', key g = b → grows g g' → key g' = b) {g : γ} (hg : g ∈ gs') (hne : key g ≠ b) :
    g ∈ gs := by
  induction h with
  | last hnew =>
    rw [List.mem_singleton.mp hg] at hne
    exact absurd (hfresh _ hnew) hne
  | here hkey hgrow =>
    rcases List.mem_cons.mp hg with rfl | hg
    · exact absurd (hgrows _ _ hkey hgrow) hne
    · exact List.mem_cons_of_mem _ hg
  | there _ _ ih =>
    rcases List.mem_cons.mp hg with rfl | hg
    · exact List.mem_cons_self
    · exact List.mem_cons_of_mem _ (ih hg)

/-- If no key occurs twice, the group of the item is a fresh one or one that has grown. -/
theorem fresh_or_grows (h : TakesIn key b fresh grows gs gs') (hnodup : (gs.map key).Nodup)
    {g' : γ} (hg : g' ∈ gs') (heq : key g' = b) :
    b ∉ gs.map key ∧ fresh g' ∨ ∃ g ∈ gs, key g = b ∧ grows g g' := by
  induction h with
  | last hnew =>
    rw [List.mem_singleton.mp hg]
    exact .inl ⟨by simp, hnew⟩
  | @here g g'' gs hkey hgrow =>
    obtain ⟨hfirst, -⟩ := List.nodup_cons.mp hnodup
    rcases List.mem_cons.mp hg with rfl | hg
    · exact .inr ⟨g, List.mem_cons_self, hkey, hgrow⟩
    · have := List.mem_map_of_mem (f := key) hg
      rw [heq, ← hkey] at this
      exact absurd this hfirst
  | @there g gs gs' hkey _ ih =>
    obtain ⟨-, hnodup⟩ := List.nodup_cons.mp hnodup
    rcases List.mem_cons.mp hg with rfl | hg
    · exact absurd heq hkey
    · obtain ⟨hnot, hnew⟩ | ⟨g, hmem, hrest⟩ := ih hnodup hg
      · exact .inl ⟨by simp [hnot, Ne.symm hkey], hnew⟩
      · exact .inr ⟨g, List.mem_cons_of_mem _ hmem, hrest⟩

end TakesIn

section
variable [DecidableEq β]

/-- The groups that some items make: in the order of the first item of each key, and each one in the
relation `Holds` to its own items. -/
structure IsGrouping (keyOf : α → β) (key : γ → β) (Holds : List α → γ → Prop) (as : List α)
    (gs : List γ) : Prop where
  keys : gs.map key = distinct (as.map keyOf)
  holds : ∀ g ∈ gs, Holds (as.filter fun a => keyOf a = key g) g

namespace IsGrouping
variable {keyOf : α → β} {key : γ → β} {Holds : List α → γ → Prop} {as : List α} {gs : List γ}

theorem nil : IsGrouping keyOf key Holds [] [] := ⟨rfl, by simp⟩

theorem nodup (h : IsGrouping keyOf key Holds as gs) : (gs.map key).Nodup :=
  h.keys ▸ nodup_distinct _

theorem mem_keys (h : IsGrouping keyOf key Holds as gs) {b : β} :
    b ∈ gs.map key ↔ b ∈ as.map keyOf := by
  rw [h.keys, mem_distinct]

/-- One more item is taken in: all that counts is what becomes of the group of its key. -/
theorem concat {fresh : γ → Prop} {grows : γ → γ → Prop} {gs' : List γ} {a : α}
    (h : IsGrouping keyOf key Holds as gs) (htakes : TakesIn key (keyOf a) fresh grows gs gs')
    (hfresh : ∀ g, fresh g → key g = keyOf a ∧ Holds [a] g)
    (hgrows : ∀ g g', key g = keyOf a → grows g g' →
      key g' = keyOf a ∧ ∀ own, Holds own g → Holds (own ++ [a]) g') :
    IsGrouping keyOf key Holds (as ++ [a]) gs' := by
  have hnewKey : ∀ g, fresh g → key g = keyOf a := fun g hg => (hfresh g hg).1
  have hgrowsKey : ∀ g g', key g = keyOf a → grows g g' → key g' = keyOf a :=
    fun g g' hkey hg => (hgrows g g' hkey hg).1
  have hkeys := htakes.map_key hnewKey hgrowsKey
  constructor
  · rw [hkeys, List.map_append, List.map_singleton, distinct_concat, h.keys]
    simp only [mem_distinct]
  · intro g' hg'
    rw [List.filter_append, List.filter_cons, List.filter_nil]
    by_cases hown : key g' = keyOf a
    · rw [hown, decide_eq_true rfl, if_pos rfl]
      obtain ⟨hnot, hnew⟩ | ⟨g, hg, hkey, hgrow⟩ := htakes.fresh_or_grows h.nodup hg' hown
      · have hnone : (as.filter fun a' => keyOf a' = keyOf a) = [] := by
          apply List.filter_eq_nil_iff.mpr
          intro a' ha' heq
          exact hnot (h.mem_keys.mpr (List.mem_map.mpr ⟨a', ha', of_decide_eq_true heq⟩))
        rw [hnone]
        exact (hfresh g' hnew).2
      · have hheld := h.holds g hg
        rw [hkey] at hheld
        exact (hgrows g g' hkey hgrow).2 _ hheld
    · rw [decide_eq_false (Ne.symm hown), if_neg Bool.false_ne_true, List.append_nil]
      exact h.holds g' (htakes.mem_of_key_ne hnewKey hgrowsKey hg' hown)

/-- A group is fixed by its key if its items fix it. -/
theorem eq_map (h : IsGrouping keyOf key Holds as gs) (of : β → γ)
    (hof : ∀ g ∈ gs, Holds (as.filter fun a => keyOf a = key g) g → g = of (key g)) :
    gs = (distinct (as.map keyOf)).map of := by
  calc gs = gs.map id := (List.map_id gs).symm
    _ = gs.map fun g => of (key g) := List.map_congr_left fun g hg => hof g hg (h.holds g hg)
    _ = (gs.map key).map of := List.map_map.symm
    _ = (distinct (as.map keyOf)).map of := by rw [h.keys]

end IsGrouping

end

end ServiceContracts
