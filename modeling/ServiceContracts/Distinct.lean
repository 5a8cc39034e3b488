/-!
# First occurrences

`distinctBy key` keeps the first item of each key, in order; `distinct` does so for the items
themselves.

* `mem_distinctByFrom`, `nodup_distinctByFrom` : every key is kept, and once only;
* `map_distinctBy_perm` : which keys are kept does not depend on order or repetition;
* `flatMap_filter_perm` : grouping by distinct keys keeps every item;
* `filter_distinctBy` : a key with all its items may be left out before or after;
* `distinctBy_concat` : one more item counts if its key is new;
* `distinctBy_map` : the first items of changed ones;
* `mem_distinct`, `nodup_distinct` : the same for the items themselves.
-/

namespace ServiceContracts

variable {α β : Type} [DecidableEq β]

/-- The first item of each key that is not among `seen`, in order. -/
def distinctByFrom (key : α → β) (seen : List β) : List α → List α
  | [] => []
  | a :: as =>
    if key a ∈ seen then distinctByFrom key seen as
    else a :: distinctByFrom key (key a :: seen) as

/-- The first item of each key, in order. -/
def distinctBy (key : α → β) (as : List α) : List α := distinctByFrom key [] as

/-- The items without later repetitions. -/
def distinct (bs : List β) : List β := distinctBy id bs

theorem mem_distinctByFrom {key : α → β} {seen : List β} {as : List α} {b : β} :
    b ∈ (distinctByFrom key seen as).map key ↔ b ∈ as.map key ∧ b ∉ seen := by
  induction as generalizing seen with
  | nil => simp [distinctByFrom]
  | cons a as ih =>
    rw [distinctByFrom]
    split <;> rename_i h
    · rw [ih, List.map_cons, List.mem_cons]
      exact ⟨fun hb => ⟨.inr hb.1, hb.2⟩, fun hb => ⟨hb.1.resolve_left fun e => hb.2 (e ▸ h), hb.2⟩⟩
    · rw [List.map_cons, List.mem_cons, ih, List.map_cons, List.mem_cons, List.mem_cons]
      by_cases hb : b = key a
      · simp [hb, h]
      · simp [hb]

theorem nodup_distinctByFrom (key : α → β) (seen : List β) (as : List α) :
    ((distinctByFrom key seen as).map key).Nodup := by
  induction as generalizing seen with
  | nil => exact List.nodup_nil
  | cons a as ih =>
    rw [distinctByFrom]
    split
    · exact ih seen
    · rw [List.map_cons, List.nodup_cons]
      exact ⟨fun h => (mem_distinctByFrom.mp h).2 List.mem_cons_self, ih _⟩

theorem distinctByFrom_sublist (key : α → β) (seen : List β) (as : List α) :
    (distinctByFrom key seen as).Sublist as := by
  induction as generalizing seen with
  | nil => exact .slnil
  | cons a as ih =>
    rw [distinctByFrom]
    split
    · exact (ih seen).cons a
    · exact (ih _).cons_cons a

/-- Of the seen keys only those count that come up. -/
theorem distinctByFrom_congr {key : α → β} {seen seen' : List β} {as : List α}
    (h : ∀ a ∈ as, key a ∈ seen ↔ key a ∈ seen') :
    distinctByFrom key seen as = distinctByFrom key seen' as := by
  induction as generalizing seen seen' with
  | nil => rfl
  | cons a as ih =>
    obtain ⟨ha, has⟩ := List.forall_mem_cons.mp h
    have hmore : ∀ b ∈ as, key b ∈ key a :: seen ↔ key b ∈ key a :: seen' := by
      intro b hb
      rw [List.mem_cons, List.mem_cons, has b hb]
    simp only [distinctByFrom, ha, ih has, ih hmore]

theorem filter_distinctByFrom (key : α → β) (p : β → Bool) (seen : List β) (as : List α) :
    (distinctByFrom key seen as).filter (fun a => p (key a)) =
      distinctByFrom key seen (as.filter fun a => p (key a)) := by
  induction as generalizing seen with
  | nil => rfl
  | cons a as ih =>
    cases hp : p (key a) with
    | true =>
      simp only [distinctByFrom, List.filter_cons, hp, if_true]
      split
      · exact ih seen
      · simp only [List.filter_cons, hp, if_true, ih]
    | false =>
      simp only [distinctByFrom, List.filter_cons, hp, Bool.false_eq_true, if_false]
      split
      · exact ih seen
      · simp only [List.filter_cons, hp, Bool.false_eq_true, if_false, ih]
        apply distinctByFrom_congr
        intro b hb
        have hkept := (List.mem_filter.mp hb).2
        have hne : key b ≠ key a := by
          intro heq
          rw [heq, hp] at hkept
          cases hkept
        simp [hne]

theorem filter_distinctBy (key : α → β) (p : β → Bool) (as : List α) :
    (distinctBy key as).filter (fun a => p (key a)) =
      distinctBy key (as.filter fun a => p (key a)) :=
  filter_distinctByFrom key p [] as

theorem distinctByFrom_concat (key : α → β) (seen : List β) (as : List α) (a : α) :
    distinctByFrom key seen (as ++ [a]) =
      distinctByFrom key seen as ++ if key a ∈ seen ∨ key a ∈ as.map key then [] else [a] := by
  induction as generalizing seen with
  | nil => simp [distinctByFrom]
  | cons a' as ih =>
    rw [List.cons_append, distinctByFrom, distinctByFrom]
    split
    · next hseen =>
      rw [ih]
      congr 2
      grind
    · rw [ih, List.cons_append]
      congr 3
      grind

theorem distinctBy_concat (key : α → β) (as : List α) (a : α) :
    distinctBy key (as ++ [a]) = distinctBy key as ++ if key a ∈ as.map key then [] else [a] := by
  rw [distinctBy, distinctByFrom_concat]
  simp only [List.not_mem_nil, false_or]
  rfl

theorem distinctByFrom_map {γ : Type} (key : α → β) (f : γ → α) (seen : List β) (cs : List γ) :
    distinctByFrom key seen (cs.map f) = (distinctByFrom (key ∘ f) seen cs).map f := by
  induction cs generalizing seen with
  | nil => rfl
  | cons c cs ih =>
    simp only [List.map_cons, distinctByFrom, Function.comp_apply, ih]
    split
    · rfl
    · rw [List.map_cons]

/-- What the key does not read may be changed before or after. -/
theorem distinctBy_map {γ : Type} (key : α → β) (f : γ → α) (cs : List γ) :
    distinctBy key (cs.map f) = (distinctBy (key ∘ f) cs).map f :=
  distinctByFrom_map key f [] cs

theorem mem_map_distinctBy {key : α → β} {as : List α} {b : β} :
    b ∈ (distinctBy key as).map key ↔ b ∈ as.map key := by
  rw [distinctBy, mem_distinctByFrom]
  simp

/-- The kept keys of two lists with the same keys are the same but for their order. -/
theorem map_distinctBy_perm {key : α → β} {as bs : List α}
    (h : ∀ b, b ∈ as.map key ↔ b ∈ bs.map key) :
    ((distinctBy key as).map key).Perm ((distinctBy key bs).map key) := by
  apply (List.perm_ext_iff_of_nodup (nodup_distinctByFrom key [] as)
    (nodup_distinctByFrom key [] bs)).mpr
  intro b
  exact mem_map_distinctBy.trans ((h b).trans mem_map_distinctBy.symm)

/-- The items grouped by distinct keys are those with one of the keys, each as often as before. -/
theorem flatMap_filter_perm {key : α → β} {keys : List β} {as : List α} (h : keys.Nodup) :
    (keys.flatMap fun b => as.filter fun a => key a = b).Perm
      (as.filter fun a => key a ∈ keys) := by
  induction keys with
  | nil => simp
  | cons b keys ih =>
    obtain ⟨hb, hkeys⟩ := List.nodup_cons.mp h
    have hfirst : (as.filter fun a => key a ∈ b :: keys).filter (fun a => key a = b) =
        as.filter fun a => key a = b := by
      rw [List.filter_filter]
      exact List.filter_congr fun a _ => by by_cases hab : key a = b <;> simp [hab]
    have hrest : (as.filter fun a => key a ∈ b :: keys).filter (fun a => !decide (key a = b)) =
        as.filter fun a => key a ∈ keys := by
      rw [List.filter_filter]
      exact List.filter_congr fun a _ => by by_cases hab : key a = b <;> simp [hab, hb]
    have hsplit := List.filter_append_perm (fun a => decide (key a = b))
      (as.filter fun a => key a ∈ b :: keys)
    rw [hfirst, hrest] at hsplit
    rw [List.flatMap_cons]
    exact ((ih hkeys).append_left _).trans hsplit

theorem filter_distinct (p : β → Bool) (bs : List β) :
    (distinct bs).filter p = distinct (bs.filter p) :=
  filter_distinctBy id p bs

theorem distinct_concat (bs : List β) (b : β) :
    distinct (bs ++ [b]) = distinct bs ++ if b ∈ bs then [] else [b] := by
  have := distinctBy_concat id bs b
  rwa [List.map_id] at this

theorem mem_distinct {b : β} {bs : List β} : b ∈ distinct bs ↔ b ∈ bs := by
  have := @mem_distinctByFrom β β _ id [] bs b
  simpa [distinct, distinctBy] using this

theorem nodup_distinct (bs : List β) : (distinct bs).Nodup := by
  have := nodup_distinctByFrom (id : β → β) [] bs
  rwa [List.map_id] at this

end ServiceContracts
