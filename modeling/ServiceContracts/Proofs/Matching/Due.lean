import ServiceContracts.Proofs.Matching.Local

/-!
# The outcome that a call asks for

The outcome of a call is told from the call, the boundary and the rows of the table: which of them
serve its path, for its own method or for another one. The two scans of the table, one by the method
and one for all other methods, agree.

* `IsSuggested`, `IsSettled`, `IsServedOtherwise` : the conditions, asked one after the other;
* `Offers`, `offers_supported` : the methods that a mismatch lists;
* `Due`, `due_decision` : the outcome for each of the conditions;
* `run_due` : every distinct call gets the outcome that is due.
-/

namespace ServiceContracts.Matching
open Mount

/-! ## Conditions -/

/-- The call leaves the boundary through a variable that the boundary does not mention. -/
def IsSuggested (b : Boundary) (c : CallFact) : Prop :=
  (b.normalize c.url).isExternal = true ∧ ∃ name, (b.normalize c.url).unlisted? = some name

/-- The call leaves the boundary, or a row for its method, or for all of them, serves its path. -/
def IsSettled (b : Boundary) (rows : List Row) (c : CallFact) : Prop :=
  (b.normalize c.url).isExternal = true ∨
    ∃ v path, Verb.read? c.method = some v ∧ (b.normalize c.url).path? = some path ∧
      ∃ r ∈ rows, (r.method = v.name ∨ r.method = Verb.any) ∧ Route.serves r.fullPath path = true

/-- A row for another method serves the path of the call. -/
def IsServedOtherwise (b : Boundary) (rows : List Row) (c : CallFact) : Prop :=
  ∃ v path, Verb.read? c.method = some v ∧ (b.normalize c.url).path? = some path ∧
    ∃ r ∈ rows, r.method ≠ v.name ∧ Route.serves r.fullPath path = true

/-- The methods are those of all rows that serve the path, in the order of a report; neither the
method that was asked for nor the one for all calls is among them. -/
structure Offers (rows : List Row) (v : Verb) (path : String) (methods : List String) : Prop where
  ne_nil : methods ≠ []
  nodup : methods.Nodup
  ordered : methods.Pairwise Verb.Before
  mem_iff : ∀ method, method ∈ methods ↔
    ∃ r ∈ rows, r.method = method ∧ Route.serves r.fullPath path = true
  asked : v.name ∉ methods
  any : Verb.any ∉ methods

/-- The issue that a call asks for, if any. The conditions are asked in turn, each of the calls that
those before it leave over. -/
inductive Due (b : Boundary) (rows : List Row) (c : CallFact) : Option Issue → Prop
  | unplaced {m : MissingEndpoint} (h : IsUnplaced b c) (hlow : m.confidence = .low) :
      Due b rows c (some (.missing m))
  | suggestion {s : VariableSuggestion} (h : ¬ IsUnplaced b c) (hsuggested : IsSuggested b c)
      (hname : (b.normalize c.url).unlisted? = some s.envVar) : Due b rows c (some (.suggestion s))
  | nothing (h : ¬ IsUnplaced b c) (hsuggested : ¬ IsSuggested b c)
      (hsettled : IsSettled b rows c) : Due b rows c none
  | mismatch {v : Verb} {path : String} {m : MethodMismatch} (h : IsPlaced b c v path)
      (hsettled : ¬ IsSettled b rows c) (hother : IsServedOtherwise b rows c)
      (hcalled : m.calledMethod = v.name) (hpath : m.path = path)
      (hoffers : Offers rows v path m.supportedMethods) : Due b rows c (some (.mismatch m))
  | missing {v : Verb} {path : String} {m : MissingEndpoint} (h : IsPlaced b c v path)
      (hsettled : ¬ IsSettled b rows c) (hother : ¬ IsServedOtherwise b rows c)
      (hhigh : m.confidence = .high) : Due b rows c (some (.missing m))

section Conditions
variable {b : Boundary} {rows : List Row} {c : CallFact} {v : Verb} {path : String}

theorem IsPlaced.not_isExternal (h : IsPlaced b c v path) :
    (b.normalize c.url).isExternal ≠ true := by
  simp [Normalized.isExternal, h.inside]

theorem IsPlaced.not_isSuggested (h : IsPlaced b c v path) : ¬ IsSuggested b c :=
  fun hs => h.not_isExternal hs.1

theorem IsPlaced.isSettled_iff (h : IsPlaced b c v path) :
    IsSettled b rows c ↔ ∃ r ∈ rows, Competes v path r := by
  rw [IsSettled, or_iff_right h.not_isExternal, h.verb, h.path]
  constructor
  · rintro ⟨v', path', hv, hpath, hr⟩
    cases hv
    cases hpath
    exact hr
  · intro hr
    exact ⟨v, path, rfl, rfl, hr⟩

theorem IsPlaced.isServedOtherwise_iff (h : IsPlaced b c v path) :
    IsServedOtherwise b rows c ↔
      ∃ r ∈ rows, r.method ≠ v.name ∧ Route.serves r.fullPath path = true := by
  rw [IsServedOtherwise, h.verb, h.path]
  constructor
  · rintro ⟨v', path', hv, hpath, hr⟩
    cases hv
    cases hpath
    exact hr
  · intro hr
    exact ⟨v, path, rfl, rfl, hr⟩

/-! ## The two scans of the table -/

theorem supported_fresh_ne_nil_iff :
    supported (fresh rows) v path ≠ [] ↔
      ∃ r ∈ rows, r.method ≠ v.name ∧ Route.serves r.fullPath path = true := by
  constructor
  · intro hne
    obtain ⟨method, hmethod⟩ := List.exists_mem_of_ne_nil _ hne
    obtain ⟨hne, r, hr, rfl, hserves⟩ := mem_supported_fresh.mp hmethod
    exact ⟨r, hr, hne, hserves⟩
  · rintro ⟨r, hr, hne, hserves⟩
    exact List.ne_nil_of_mem (mem_supported_fresh.mpr ⟨hne, r, hr, rfl, hserves⟩)

/-- If no row answers, then the methods that are offered are those of all rows that serve the path:
a row for the method itself, or for all of them, would have answered. -/
theorem offers_supported (hanswer : answer? (fresh rows) v path = none)
    (hne : supported (fresh rows) v path ≠ []) :
    Offers rows v path (supported (fresh rows) v path) := by
  have hnone := answer?_fresh_eq_none_iff.mp hanswer
  refine ⟨hne, nodup_supported _ _ _, pairwise_supported _ _ _, fun method => ?_, ?_, ?_⟩
  · rw [mem_supported_fresh]
    refine ⟨fun h => h.2, fun h => ⟨?_, h⟩⟩
    rintro rfl
    obtain ⟨r, hr, hmethod, hserves⟩ := h
    exact hnone ⟨r, hr, .inl hmethod, hserves⟩
  · exact fun h => (mem_supported_fresh.mp h).1 rfl
  · intro h
    obtain ⟨-, r, hr, hmethod, hserves⟩ := mem_supported_fresh.mp h
    exact hnone ⟨r, hr, .inr hmethod, hserves⟩

end Conditions

/-! ## Outcomes -/

section Outcomes
variable {b : Boundary} {rows : List Row} {c : CallFact} {made : Option Issue}

theorem due_decision (b : Boundary) (rows : List Row) (c : CallFact) :
    Due b rows c (decision b (fresh rows) c).issue? := by
  have h := decides_decision b (fresh rows) c
  generalize decision b (fresh rows) c = made at h
  cases h with
  | unplaced h method path => exact .unplaced h rfl
  | suggested h hname =>
    have hstanding := Boundary.exists_unlisted?_iff.mp ⟨_, hname⟩
    exact .suggestion h ⟨by simp [Normalized.isExternal, hstanding], _, hname⟩ hname
  | ignored h houtside =>
    refine .nothing h ?_ (.inl (by simp [Normalized.isExternal, houtside]))
    rintro ⟨-, hname⟩
    rw [Boundary.exists_unlisted?_iff, houtside] at hname
    cases hname
  | served h hanswer =>
    refine .nothing h.not_isUnplaced h.not_isSuggested (h.isSettled_iff.mpr ?_)
    by_contra hnone
    rw [answer?_fresh_eq_none_iff.mpr hnone] at hanswer
    cases hanswer
  | mismatched h hanswer hne hpath hcalled hmethods =>
    have hsettled := h.isSettled_iff.not.mpr (answer?_fresh_eq_none_iff.mp hanswer)
    have hother := h.isServedOtherwise_iff.mpr (supported_fresh_ne_nil_iff.mp hne)
    exact .mismatch h hsettled hother hcalled hpath (hmethods ▸ offers_supported hanswer hne)
  | missing h hanswer hnil hhigh =>
    have hsettled := h.isSettled_iff.not.mpr (answer?_fresh_eq_none_iff.mp hanswer)
    have hother := h.isServedOtherwise_iff.not.mpr
      (supported_fresh_ne_nil_iff.not.mp (not_not.mpr hnil))
    exact .missing h hsettled hother hhigh

theorem Due.unplaced_iff (h : Due b rows c made) :
    (∃ m, made = some (.missing m) ∧ m.confidence = .low) ↔ IsUnplaced b c := by
  cases h with
  | unplaced h hlow => exact iff_of_true ⟨_, rfl, hlow⟩ h
  | suggestion h => exact iff_of_false (by simp) h
  | nothing h => exact iff_of_false (by simp) h
  | mismatch h => exact iff_of_false (by simp) h.not_isUnplaced
  | missing h _ _ hhigh => exact iff_of_false (by simp [hhigh]) h.not_isUnplaced

theorem Due.suggestion_iff (h : Due b rows c made) (hplaced : ¬ IsUnplaced b c) :
    (∃ s, made = some (.suggestion s)) ↔ IsSuggested b c := by
  cases h with
  | unplaced h => exact absurd h hplaced
  | suggestion _ h => exact iff_of_true ⟨_, rfl⟩ h
  | nothing _ h => exact iff_of_false (by simp) h
  | mismatch h => exact iff_of_false (by simp) h.not_isSuggested
  | missing h => exact iff_of_false (by simp) h.not_isSuggested

theorem Due.nothing_iff (h : Due b rows c made) (hplaced : ¬ IsUnplaced b c)
    (hsuggested : ¬ IsSuggested b c) : made = none ↔ IsSettled b rows c := by
  cases h with
  | unplaced h => exact absurd h hplaced
  | suggestion _ h => exact absurd h hsuggested
  | nothing _ _ h => exact iff_of_true rfl h
  | mismatch _ h => exact iff_of_false (by simp) h
  | missing _ h => exact iff_of_false (by simp) h

theorem Due.mismatch_iff (h : Due b rows c made) (hplaced : ¬ IsUnplaced b c)
    (hsuggested : ¬ IsSuggested b c) (hsettled : ¬ IsSettled b rows c) :
    (∃ m, made = some (.mismatch m)) ↔ IsServedOtherwise b rows c := by
  cases h with
  | unplaced h => exact absurd h hplaced
  | suggestion _ h => exact absurd h hsuggested
  | nothing _ _ h => exact absurd h hsettled
  | mismatch _ _ h => exact iff_of_true ⟨_, rfl⟩ h
  | missing _ _ h => exact iff_of_false (by simp) h

theorem Due.exists_missing (h : Due b rows c made) (hplaced : ¬ IsUnplaced b c)
    (hsuggested : ¬ IsSuggested b c) (hsettled : ¬ IsSettled b rows c)
    (hother : ¬ IsServedOtherwise b rows c) :
    ∃ m, made = some (.missing m) ∧ m.confidence = .high := by
  cases h with
  | unplaced h => exact absurd h hplaced
  | suggestion _ h => exact absurd h hsuggested
  | nothing _ _ h => exact absurd h hsettled
  | mismatch _ _ h => exact absurd h hother
  | missing _ _ _ hhigh => exact ⟨_, rfl, hhigh⟩

end Outcomes

/-- Every distinct call, the first one with its key, gets the outcome that its inputs call for, each
condition asked of the calls that those before it leave over: a missing endpoint of low confidence
if it has no method or no target that can be told; a suggestion if it leaves the boundary through a
variable that is not mentioned, and then for that variable; nothing if it leaves the boundary or a
row for its method or for all of them serves its path; a mismatch, which lists the methods of all
rows that serve its path, if there is a row for another one; and else a missing endpoint of high
confidence. -/
theorem run_due (b : Boundary) (rows : List Row) (calls : List CallFact) :
    let made (c : CallFact) := (decision b (fresh rows) c).issue?
    FirstOfEach callKey calls (distinctCalls calls) ∧
    (run b rows calls).issues =
      (distinctCalls calls).filterMap made ++ (orphans (run b rows calls).rows).map orphan ∧
    ∀ c,
      ((∃ m, made c = some (.missing m) ∧ m.confidence = .low) ↔ IsUnplaced b c) ∧
      (¬ IsUnplaced b c → ((∃ s, made c = some (.suggestion s)) ↔ IsSuggested b c) ∧
        (¬ IsSuggested b c → (made c = none ↔ IsSettled b rows c) ∧
          (¬ IsSettled b rows c →
            ((∃ m, made c = some (.mismatch m)) ↔ IsServedOtherwise b rows c) ∧
            (¬ IsServedOtherwise b rows c →
              ∃ m, made c = some (.missing m) ∧ m.confidence = .high)))) ∧
      (∀ s, made c = some (.suggestion s) →
        (b.normalize c.url).unlisted? = some s.envVar) ∧
      ∀ m, made c = some (.mismatch m) → ∃ v path, IsPlaced b c v path ∧
        m.calledMethod = v.name ∧ m.path = path ∧ Offers rows v path m.supportedMethods := by
  intro made
  refine ⟨firstOfEach_distinctBy callKey calls, by rw [issues_run, callIssues_run], fun c => ?_⟩
  have h : Due b rows c (made c) := due_decision b rows c
  refine ⟨h.unplaced_iff, fun hplaced => ⟨h.suggestion_iff hplaced, fun hsuggested =>
    ⟨h.nothing_iff hplaced hsuggested, fun hsettled =>
      ⟨h.mismatch_iff hplaced hsuggested hsettled,
        h.exists_missing hplaced hsuggested hsettled⟩⟩⟩, ?_, ?_⟩
  · intro s hs
    rw [hs] at h
    cases h with
    | suggestion _ _ hname => exact hname
  · intro m hm
    rw [hm] at h
    cases h with
    | mismatch h _ _ hcalled hpath hoffers => exact ⟨_, _, h, hcalled, hpath, hoffers⟩

/-- Rows for two other methods serve the path; the row for all methods serves another one. -/
theorem run_due_mismatch :
    let b : Boundary := {}
    let row (method fullPath : String) : Row := { method, fullPath, repo := "shop", owner := "app" }
    let rows := [row "GET" "/users/:id", row "DELETE" "/users/*", row "ALL" "/orders"]
    let c : CallFact := { method := "post", url := "/users/7?page=1", callerRepo := "web" }
    ¬ IsUnplaced b c ∧ ¬ IsSuggested b c ∧ ¬ IsSettled b rows c ∧ IsServedOtherwise b rows c ∧
      ∃ m, (decision b (fresh rows) c).issue? = some (.mismatch m) ∧
        Offers rows .post "/users/7" m.supportedMethods := by
  intro b row rows c
  have hplaced : IsPlaced b c .post "/users/7" := ⟨by decide, by decide, by decide⟩
  have hsettled : ¬ IsSettled b rows c := by
    rw [hplaced.isSettled_iff]
    unfold Competes
    decide
  have hother : IsServedOtherwise b rows c := by
    rw [hplaced.isServedOtherwise_iff]
    decide
  have hdue := (run_due b rows [c]).2.2 c
  obtain ⟨m, hm⟩ := ((((hdue.2.1 hplaced.not_isUnplaced).2 hplaced.not_isSuggested).2
    hsettled).1).mpr hother
  obtain ⟨v, path, hplaced', -, -, hoffers⟩ := hdue.2.2.2 m hm
  obtain ⟨rfl, rfl⟩ := hplaced.unique hplaced'
  exact ⟨hplaced.not_isUnplaced, hplaced.not_isSuggested, hsettled, hother, m, hm, hoffers⟩

end ServiceContracts.Matching
