import ServiceContracts.Matching
import ServiceContracts.Proofs.Path.Join
import ServiceContracts.Proofs.Route.Grammar

/-!
# Routes that cover others

A route covers another one if it serves all of its calls. What covers is told by a few calls of the
narrow route, with a text in every slot that the broad route does not hold: then a literal segment
of the broad route can only meet the same literal, and the shortest and the longest of these calls
bound the two routes. So a route without a catch-all has at least as many dynamic segments as any
route that it covers.

* `SpellsDynamic`, `dynamicCount` : the dynamic segments, by their texts, and their number;
* `stranger`, `probe`, `grammar_probe` : the calls, and that the narrow route serves them;
* `IsCovered` : the relation, and what the calls tell of it;
* `IsCovered.dynamicCount_le`, `specificity_le_of_covered` : the numbers of the two routes.
-/

namespace ServiceContracts.Route
open ServiceContracts.Path

/-! ## Dynamic segments -/

/-- The text of a segment that takes other texts than its own. -/
def SpellsDynamic (s : List Char) : Prop :=
  s.head? = some ':' ∨ s = "*".toList ∨ SpellsCatchAll s

instance : DecidablePred SpellsDynamic := fun s =>
  inferInstanceAs (Decidable (s.head? = some ':' ∨ s = "*".toList ∨ SpellsCatchAll s))

theorem SpellsSkippable.spellsDynamic {s : List Char} (h : SpellsSkippable s) : SpellsDynamic s :=
  h.elim (fun hoptional => .inl hoptional.1) fun hcatch => .inr (.inr hcatch)

theorem Segment.isDynamic_read {s : List Char} :
    (read s).isDynamic = true ↔ SpellsDynamic s := by
  obtain ⟨h, hr | hr⟩ | ⟨rfl, hr⟩ | ⟨name, rfl, hr⟩ | ⟨name, rfl, -, hr⟩ |
    ⟨hcatch, hstar, hhead, hr⟩ := read_cases s <;> rw [hr]
  · exact iff_of_true rfl (.inr (.inr h))
  · exact iff_of_true rfl (.inr (.inr h))
  · exact iff_of_true rfl (.inr (.inl rfl))
  · exact iff_of_true rfl (.inl rfl)
  · exact iff_of_true rfl (.inl rfl)
  · exact iff_of_false Bool.false_ne_true (not_or.mpr ⟨hhead, not_or.mpr ⟨hstar, hcatch⟩⟩)

/-- The number of dynamic segments. -/
def dynamicCount (route : List (List Char)) : Nat := route.countP fun s => decide (SpellsDynamic s)

theorem specificity_eq_dynamicCount (path : String) :
    specificity path = dynamicCount (segments path.toList) := by
  rw [specificity, read, List.countP_map]
  refine List.countP_congr fun s _ => ?_
  rw [Function.comp_apply, Segment.isDynamic_read, decide_eq_true_iff]

theorem dynamicCount_split (k : Nat) (route : List (List Char)) :
    dynamicCount route = dynamicCount (route.take k) + dynamicCount (route.drop k) := by
  rw [dynamicCount, dynamicCount, dynamicCount, ← List.countP_append, List.take_append_drop]

theorem dynamicCount_le_length (route : List (List Char)) : dynamicCount route ≤ route.length :=
  List.countP_le_length

/-- If the items that count on the left count on the right, there are no more of them. -/
theorem countP_le_of_forall₂ {α β : Type} {p : α → Bool} {q : β → Bool} {as : List α} {bs : List β}
    (h : List.Forall₂ (fun a b => p a = true → q b = true) as bs) : as.countP p ≤ bs.countP q := by
  induction h with
  | nil => exact Nat.le_refl _
  | @cons a b as bs hab _ ih =>
    rw [List.countP_cons, List.countP_cons]
    by_cases ha : p a = true
    · rw [if_pos ha, if_pos (hab ha)]
      exact Nat.succ_le_succ ih
    · rw [if_neg ha]
      exact Nat.le_add_right_of_le ih

/-! ## Required segments -/

section Required
variable {s : List Char} {route : List (List Char)} {i : Nat}

theorem not_spellsCatchAll_of_lt_required (hi : i < required route) (hs : route[i]? = some s) :
    ¬ SpellsCatchAll s := by
  obtain ⟨hlt, rfl⟩ := List.getElem?_eq_some_iff.mp hs
  have hfirst := List.not_of_lt_findIdx (Nat.lt_of_lt_of_le hi (Nat.min_le_right _ _))
  simpa using hfirst

/-- Without a catch-all, what is not required belongs to the skippable tail. -/
theorem spellsSkippable_of_mem_drop (hno : ∀ s ∈ route, ¬ SpellsCatchAll s)
    (hs : s ∈ route.drop (required route)) : SpellsSkippable s := by
  have hall : (route.findIdx fun s => decide (SpellsCatchAll s)) = route.length :=
    List.findIdx_eq_length_of_false fun s hs => decide_eq_false (hno s hs)
  let front := route.rdropWhile fun s => decide (SpellsSkippable s)
  let tail := route.rtakeWhile fun s => decide (SpellsSkippable s)
  have hsplit : front ++ tail = route := List.rdropWhile_append_rtakeWhile
  have hrequired : required route = front.length := by
    rw [required, hall]
    exact Nat.min_eq_left (List.rdropWhile_prefix _ _).length_le
  have hdrop : route.drop (required route) = tail := by
    calc route.drop (required route)
        = (front ++ tail).drop front.length := by rw [hsplit, hrequired]
      _ = tail := List.drop_left
  rw [hdrop] at hs
  have hskippable := List.mem_rtakeWhile_imp hs
  exact of_decide_eq_true hskippable

theorem dynamicCount_drop_required (hno : ∀ s ∈ route, ¬ SpellsCatchAll s) :
    dynamicCount (route.drop (required route)) = (route.drop (required route)).length :=
  List.countP_eq_length.mpr fun _ hs =>
    decide_eq_true (spellsSkippable_of_mem_drop hno hs).spellsDynamic

end Required

/-! ## Calls of a route -/

/-- A text that is longer than all segments of a route together. -/
def stranger (route : List (List Char)) : List Char := List.replicate (route.flatten.length + 1) 'x'

theorem stranger_not_mem (route : List (List Char)) : stranger route ∉ route := by
  intro h
  have hle := (List.sublist_flatten_of_mem h).length_le
  rw [stranger, List.length_replicate] at hle
  omega

theorem stranger_isSegment (route : List (List Char)) :
    stranger route ≠ [] ∧ '/' ∉ stranger route := by
  refine ⟨List.cons_ne_nil _ _, fun h => ?_⟩
  have := List.eq_of_mem_replicate h
  revert this
  decide

/-- A call of a route: its required segments with one text in every slot, and then the same text as
often as wanted. -/
def probe (text : List Char) (route : List (List Char)) (more : Nat) : List (List Char) :=
  ((route.take (required route)).map fun s => if SpellsDynamic s then text else s) ++
    List.replicate more text

section Probe
variable {text : List Char} {route : List (List Char)} {more : Nat}

theorem length_probe : (probe text route more).length = required route + more := by
  rw [probe, List.length_append, List.length_map, List.length_take, List.length_replicate,
    Nat.min_eq_left (required_le_length route)]

theorem getElem?_probe {i : Nat} (hi : i < required route) :
    (probe text route more)[i]? = route[i]?.map fun s => if SpellsDynamic s then text else s := by
  have hlt : i < ((route.take (required route)).map fun s =>
      if SpellsDynamic s then text else s).length := by
    rw [List.length_map, List.length_take, Nat.min_eq_left (required_le_length route)]
    exact hi
  rw [probe, List.getElem?_append_left hlt, List.getElem?_map, List.getElem?_take_of_lt hi]

/-- The route serves the call as long as it does not grow longer than a route without a
catch-all. -/
theorem grammar_probe
    (hmore : (∀ s ∈ route, ¬ SpellsCatchAll s) → required route + more ≤ route.length) :
    Grammar route (probe text route more) := by
  refine ⟨?_, fun i hi => ?_, fun hno => ?_⟩
  · rw [length_probe]
    exact Nat.le_add_right _ _
  · have hlt := Nat.lt_of_lt_of_le hi (required_le_length route)
    have hs := List.getElem?_eq_getElem hlt
    refine ⟨_, hs, ?_⟩
    rw [getElem?_probe hi, hs, Option.map_some]
    by_cases hdynamic : SpellsDynamic route[i]
    · obtain hcolon | hstar | hcatch := hdynamic
      · exact .inl hcolon
      · exact .inr (.inl hstar)
      · exact absurd hcatch (not_spellsCatchAll_of_lt_required hi hs)
    · rw [if_neg hdynamic]
      exact .inr (.inr rfl)
  · rw [length_probe]
    exact hmore hno

/-- The call is one of texts between slashes. -/
theorem isSegment_of_mem_probe (htext : text ≠ [] ∧ '/' ∉ text)
    (hroute : ∀ s ∈ route, s ≠ [] ∧ '/' ∉ s) {s : List Char} (hs : s ∈ probe text route more) :
    s ≠ [] ∧ '/' ∉ s := by
  rcases List.mem_append.mp hs with hs | hs
  · obtain ⟨t, ht, rfl⟩ := List.mem_map.mp hs
    split
    · exact htext
    · exact hroute t (List.mem_of_mem_take ht)
  · rw [List.eq_of_mem_replicate hs]
    exact htext

end Probe

/-! ## Covering -/

/-- Every call that the segments `narrow` serve is served by the segments `broad`. -/
def IsCovered (narrow broad : List (List Char)) : Prop :=
  ∀ call : List (List Char), (∀ s ∈ call, s ≠ [] ∧ '/' ∉ s) → Grammar narrow call →
    Grammar broad call

/-- The segments of two paths, the calls being paths as well. -/
theorem isCovered_of_serves {narrow broad : String}
    (h : ∀ call, serves narrow call = true → serves broad call = true) :
    IsCovered (segments narrow.toList) (segments broad.toList) := by
  intro call hcall hnarrow
  have hserves := h (String.ofList (slashed call))
  rw [serves_eq_accepts, serves_eq_accepts, read, read, accepts_iff, accepts_iff,
    String.toList_ofList, segments_slashed hcall] at hserves
  exact hserves hnarrow

namespace IsCovered
variable {narrow broad : List (List Char)} (h : IsCovered narrow broad)
  (hnarrow : ∀ s ∈ narrow, s ≠ [] ∧ '/' ∉ s)
include h hnarrow

theorem grammar_probe (more : Nat)
    (hmore : (∀ s ∈ narrow, ¬ SpellsCatchAll s) → required narrow + more ≤ narrow.length) :
    Grammar broad (probe (stranger broad) narrow more) :=
  h _ (fun _ hs => isSegment_of_mem_probe (stranger_isSegment broad) hnarrow hs)
    (Route.grammar_probe hmore)

/-- By the longest call. -/
theorem length_le (hbroad : ∀ s ∈ broad, ¬ SpellsCatchAll s) : narrow.length ≤ broad.length := by
  have hrequired := required_le_length narrow
  have hlongest := h.grammar_probe hnarrow (narrow.length - required narrow) fun _ => by omega
  have hfits := hlongest.fits hbroad
  rw [length_probe] at hfits
  omega

theorem grammar_shortest : Grammar broad (probe (stranger broad) narrow 0) :=
  h.grammar_probe hnarrow 0 fun _ => required_le_length narrow

theorem required_le : required broad ≤ required narrow := by
  have henough := (h.grammar_shortest hnarrow).enough
  rwa [length_probe] at henough

/-- A literal segment that is required takes one text only, so that no dynamic one stands in its
place. -/
theorem spellsDynamic {i : Nat} (hi : i < required broad) {s t : List Char}
    (hs : narrow[i]? = some s) (ht : broad[i]? = some t) (hdynamic : SpellsDynamic s) :
    SpellsDynamic t := by
  obtain ⟨t', ht', htaken⟩ := (h.grammar_shortest hnarrow).taken i hi
  obtain rfl : t = t' := Option.some.inj (ht.symm.trans ht')
  obtain hcolon | hstar | hsame := htaken
  · exact .inl hcolon
  · exact .inr (.inl hstar)
  · rw [getElem?_probe (Nat.lt_of_lt_of_le hi (h.required_le hnarrow)), hs, Option.map_some,
      if_pos hdynamic] at hsame
    have hmem := List.mem_of_getElem? ht
    rw [← Option.some.inj hsame] at hmem
    exact absurd hmem (stranger_not_mem broad)

/-- In front of the tail of the broad route, dynamic segments stand in places of dynamic ones. -/
theorem dynamicCount_take_le :
    dynamicCount (narrow.take (required broad)) ≤ dynamicCount (broad.take (required broad)) := by
  have hrequired := h.required_le hnarrow
  have hnarrowLength := required_le_length narrow
  have hbroadLength := required_le_length broad
  refine countP_le_of_forall₂ (List.forall₂_iff_get.mpr ⟨?_, fun i hi hi' => ?_⟩)
  · rw [List.length_take, List.length_take]
    omega
  · rw [List.length_take, Nat.lt_min] at hi hi'
    simp only [List.get_eq_getElem, List.getElem_take, decide_eq_true_iff]
    exact h.spellsDynamic hnarrow hi.1 (List.getElem?_eq_getElem hi.2)
      (List.getElem?_eq_getElem hi'.2)

/-- The tail of the broad route makes up for whatever else the narrow one holds. -/
theorem dynamicCount_le (hbroad : ∀ s ∈ broad, ¬ SpellsCatchAll s) :
    dynamicCount narrow ≤ dynamicCount broad := by
  have hlength := h.length_le hnarrow hbroad
  have hfront := h.dynamicCount_take_le hnarrow
  have hrest := dynamicCount_le_length (narrow.drop (required broad))
  rw [dynamicCount_split (required broad) narrow, dynamicCount_split (required broad) broad,
    dynamicCount_drop_required hbroad, List.length_drop]
  rw [List.length_drop] at hrest
  omega

end IsCovered

/-- A path without a catch-all has no fewer dynamic segments than a path that it covers. So of two
rows with such paths the broad one comes before the narrow one only if they are as specific and it
is registered earlier. -/
theorem specificity_le_of_covered {narrow broad : String}
    (hbroad : ∀ s ∈ segments broad.toList, ¬ SpellsCatchAll s)
    (hcover : ∀ call, serves narrow call = true → serves broad call = true) :
    specificity narrow ≤ specificity broad ∧
      ∀ a b : Mount.Row, a.fullPath = narrow → b.fullPath = broad →
        Matching.precedes b a = true →
          specificity a.fullPath = specificity b.fullPath ∧ b.order < a.order := by
  have hle : specificity narrow ≤ specificity broad := by
    rw [specificity_eq_dynamicCount, specificity_eq_dynamicCount]
    exact (isCovered_of_serves hcover).dynamicCount_le (fun _ hs => of_mem_segments hs) hbroad
  refine ⟨hle, ?_⟩
  rintro a b rfl rfl hprecedes
  simp only [Matching.precedes, Bool.or_eq_true, Bool.and_eq_true, decide_eq_true_eq,
    beq_iff_eq] at hprecedes
  rcases hprecedes with hlt | ⟨heq, horder⟩
  · omega
  · exact ⟨heq.symm, horder⟩

/-- A route of literal segments serves the one call that repeats them. -/
theorem accepts_literal_iff {texts call : List (List Char)} :
    accepts (texts.map .literal) call = true ↔ call = texts := by
  induction texts generalizing call with
  | nil => rw [List.map_nil, accepts, List.isEmpty_iff]
  | cons t texts ih =>
    have hcatch : ¬ (Segment.literal t).isCatchAll = true := Bool.false_ne_true
    have htail : ¬ (Segment.literal t :: texts.map .literal).all Segment.isSkippable = true := by
      rw [List.all_cons]
      exact Bool.false_ne_true
    rw [List.map_cons]
    unfold accepts
    rw [if_neg hcatch, if_neg htail]
    cases call with
    | nil => exact iff_of_false Bool.false_ne_true (List.cons_ne_nil t texts).symm
    | cons called call =>
      rw [Bool.and_eq_true, ih, List.cons.injEq, Segment.takes, beq_iff_eq]
      exact and_congr_left' eq_comm

/-- The literal path is covered by the one with an optional segment in its place. -/
theorem specificity_le_of_covered_optional :
    (∀ call, serves "/users/me" call = true → serves "/users/:id?" call = true) ∧
      specificity "/users/me" = 0 ∧ specificity "/users/:id?" = 1 ∧
      specificity "/users/me" ≤ specificity "/users/:id?" := by
  have hcover : ∀ call, serves "/users/me" call = true → serves "/users/:id?" call = true := by
    intro call h
    have hread : read "/users/me" = ["users".toList, "me".toList].map .literal := by decide
    rw [serves_eq_accepts, hread, accepts_literal_iff] at h
    rw [serves_eq_accepts, h]
    decide
  refine ⟨hcover, by decide, by decide, ?_⟩
  exact (specificity_le_of_covered (by decide) hcover).1

/-- A catch-all stands for more segments than it counts, so it may cover less specific paths. -/
example : (∀ call, serves "/**" call = true) ∧ specificity "/**" < specificity "/:shop/:id" := by
  have hread : read "/**" = [.everything] := by decide
  refine ⟨fun call => ?_, by decide⟩
  rw [serves_eq_accepts, hread]
  rfl

end ServiceContracts.Route
