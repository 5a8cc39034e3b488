import Mathlib.Data.List.Basic

/-!
# Steps that may fail, one after another

* `mapM_eq_ok_iff`, `mapM_eq_ok` : every step succeeds;
* `FirstFails`, `mapM_eq_error_iff` : the first step that fails decides.
-/

namespace ServiceContracts

/-- The fault of the first step that fails. -/
def FirstFails {α β ε : Type} (g : α → Except ε β) (as : List α) (e : ε) : Prop :=
  ∃ before a after, as = before ++ a :: after ∧ (∀ b ∈ before, ∃ v, g b = .ok v) ∧
    g a = .error e

variable {α β ε : Type} {g : α → Except ε β} {a : α} {as : List α} {v : β} {vs : List β} {e e' : ε}

theorem mapM_eq_ok_iff : as.mapM g = .ok vs ↔ as.map g = vs.map .ok := by
  induction as generalizing vs with
  | nil => simp [pure, Except.pure, eq_comm]
  | cons a as ih =>
    rw [List.mapM_cons, List.map_cons]
    cases hstep : g a with
    | error e =>
      refine iff_of_false nofun fun h => ?_
      cases vs <;> cases h
    | ok v =>
      cases hrest : as.mapM g with
      | error e =>
        refine iff_of_false nofun fun h => ?_
        cases vs with
        | nil => cases h
        | cons w ws => cases hrest.symm.trans (ih.mpr (List.cons.inj h).2)
      | ok ws =>
        have hws := ih.mp hrest
        rw [hws, ← List.map_cons, List.map_inj_right fun _ _ => Except.ok.inj]
        exact Except.ok.injEq .. |>.to_iff

theorem mapM_eq_ok {f : α → β} (h : ∀ a ∈ as, g a = .ok (f a)) : as.mapM g = .ok (as.map f) := by
  rw [mapM_eq_ok_iff, List.map_map]
  exact List.map_congr_left h

theorem not_firstFails_nil : ¬ FirstFails g [] e := by
  rintro ⟨before, a, after, h, -⟩
  cases before <;> cases h

theorem firstFails_cons_of_error (h : g a = .error e') : FirstFails g (a :: as) e ↔ e' = e := by
  constructor
  · rintro ⟨_ | ⟨b, before⟩, a', after, heq, hbefore, hfails⟩
    · cases heq
      exact Except.error.inj (h.symm.trans hfails)
    · cases heq
      obtain ⟨v, hv⟩ := hbefore a List.mem_cons_self
      cases h.symm.trans hv
  · rintro rfl
    exact ⟨[], a, as, rfl, nofun, h⟩

theorem firstFails_cons_of_ok (h : g a = .ok v) :
    FirstFails g (a :: as) e ↔ FirstFails g as e := by
  constructor
  · rintro ⟨_ | ⟨b, before⟩, a', after, heq, hbefore, hfails⟩
    · cases heq
      cases h.symm.trans hfails
    · cases heq
      exact ⟨before, a', after, rfl, fun b hb => hbefore b (List.mem_cons_of_mem _ hb), hfails⟩
  · rintro ⟨before, a', after, rfl, hbefore, hfails⟩
    exact ⟨a :: before, a', after, rfl, List.forall_mem_cons.2 ⟨⟨v, h⟩, hbefore⟩, hfails⟩

theorem mapM_eq_error_iff : as.mapM g = .error e ↔ FirstFails g as e := by
  induction as with
  | nil => exact iff_of_false nofun not_firstFails_nil
  | cons a as ih =>
    rw [List.mapM_cons]
    cases hstep : g a with
    | error e' =>
      rw [firstFails_cons_of_error hstep]
      exact Except.error.injEq .. |>.to_iff
    | ok v =>
      rw [firstFails_cons_of_ok hstep, ← ih]
      cases as.mapM g with
      | error e' => rfl
      | ok vs => exact iff_of_false nofun nofun

/-- The failures of two steps, one behind the other. -/
theorem bind_eq_error_iff {γ : Type} {r : Except ε β} {k : β → Except ε γ} :
    r >>= k = .error e ↔ r = .error e ∨ ∃ v, r = .ok v ∧ k v = .error e := by
  cases r with
  | error e' => simp [bind, Except.bind]
  | ok v => simp [bind, Except.bind]

end ServiceContracts
