import ServiceContracts.Proofs.CallTarget.Template
import ServiceContracts.Proofs.Matching.Answer
import ServiceContracts.Proofs.Route.Grammar

/-!
# Calls that follow the route of a row

A call follows a route if it writes the literal segments as they are and puts something into every
slot: a plain text, or an interpolation. Such a call is served, and no issue is about it.

* `Route.IsSlot`, `Route.Fills`, `Route.serves_of_fills` : following a route, and that it is served;
* `exists_answer?`, `decision_of_serves` : a row that serves a call makes some row answer it;
* `run_template` : a call that follows the route of a row raises no issue.
-/

namespace ServiceContracts.Route
open ServiceContracts.Path Interpolation

/-! ## Following a route -/

/-- A segment that takes exactly one text, whatever it is. -/
def IsSlot (s : List Char) : Prop :=
  s = "*".toList ∨ ∃ name, s = ':' :: name ∧ '/' ∉ name ∧ name.getLast? ≠ some '?'

/-- What a call may write for a segment of a route. -/
inductive Fills : List Char → List Char → Prop
  | literal {s : List Char} (hplain : IsPlain s) (hliteral : (Segment.read s).isDynamic = false) :
      Fills s s
  | slot {s t : List Char} (hslot : IsSlot s) (ht : IsTemplate t) : Fills s t

section Fills
variable {s t : List Char}

theorem IsSlot.ne_nil (h : IsSlot s) : s ≠ [] ∧ '/' ∉ s := by
  rcases h with rfl | ⟨name, rfl, hname, -⟩
  · exact ⟨List.cons_ne_nil _ _, by decide⟩
  · refine ⟨List.cons_ne_nil _ _, fun h => ?_⟩
    rcases List.mem_cons.mp h with h | h
    · cases h
    · exact hname h

theorem IsSlot.not_spellsSkippable (h : IsSlot s) : ¬ SpellsSkippable s := by
  rcases h with rfl | ⟨name, rfl, -, hlast⟩
  · decide
  · rintro (hopt | hcatch)
    · exact hlast (Segment.getLast?_of_spellsOptional hopt)
    · exact Segment.not_spellsCatchAll_colon name hcatch

theorem not_spellsSkippable_of_literal (h : (Segment.read s).isDynamic = false) :
    ¬ SpellsSkippable s := by
  rw [← Segment.isSkippable_read]
  cases hread : Segment.read s with
  | literal text => exact Bool.false_ne_true
  | _ =>
    rw [hread] at h
    cases h

/-- Segments of a route that a call can follow are texts between slashes. -/
theorem Fills.left (h : Fills s t) : s ≠ [] ∧ '/' ∉ s := by
  cases h with
  | literal hplain => exact ⟨hplain.ne_nil, hplain.not_mem '/' (by decide)⟩
  | slot hslot => exact hslot.ne_nil

theorem Fills.right (h : Fills s t) : IsTemplate t := by
  cases h with
  | literal hplain => exact .inl hplain
  | slot _ ht => exact ht

theorem Fills.not_spellsSkippable (h : Fills s t) : ¬ SpellsSkippable s := by
  cases h with
  | literal _ hliteral => exact not_spellsSkippable_of_literal hliteral
  | slot hslot => exact hslot.not_spellsSkippable

/-- The segment takes what is written for it, once expanded. -/
theorem Fills.takes (h : Fills s t) : s.head? = some ':' ∨ s = "*".toList ∨ expand t = s := by
  cases h with
  | literal hplain => exact .inr (.inr hplain.expand)
  | slot hslot =>
    rcases hslot with rfl | ⟨name, rfl, -⟩
    · exact .inr (.inl rfl)
    · exact .inl rfl

end Fills

variable {route segs : List (List Char)}

theorem forall_route_of_fills (h : List.Forall₂ Fills route segs) :
    ∀ s ∈ route, s ≠ [] ∧ '/' ∉ s := by
  induction h with
  | nil => exact fun s hs => absurd hs List.not_mem_nil
  | cons hfills _ ih => exact List.forall_mem_cons.mpr ⟨hfills.left, ih⟩

theorem forall_segs_of_fills (h : List.Forall₂ Fills route segs) : ∀ t ∈ segs, IsTemplate t := by
  induction h with
  | nil => exact fun t ht => absurd ht List.not_mem_nil
  | cons hfills _ ih => exact List.forall_mem_cons.mpr ⟨hfills.right, ih⟩

theorem grammar_of_fills (h : List.Forall₂ Fills route segs) :
    Grammar route (segs.map expand) := by
  induction h with
  | nil => exact .refl []
  | cons hfills _ ih =>
    have hskip := hfills.not_spellsSkippable
    apply (grammar_cons (fun h => hskip (.inr h)) fun h => hskip (h _ List.mem_cons_self)).mpr
    exact ⟨hfills.takes, ih⟩

/-- A route serves the calls that follow it. -/
theorem serves_of_fills {endpoint call : String} (h : List.Forall₂ Fills route segs)
    (hendpoint : endpoint = String.ofList (slashed route))
    (hcall : segments call.toList = segs.map expand) : serves endpoint call = true := by
  have hroute := segments_slashed (forall_route_of_fills h)
  rw [serves_eq_accepts, Route.read, accepts_iff, hendpoint, String.toList_ofList, hroute, hcall]
  exact grammar_of_fills h

end ServiceContracts.Route

namespace ServiceContracts.Matching
open Mount ServiceContracts.Path

/-! ## Some row answers -/

section Answer
variable {b : Boundary} {rows : List Row} {r : Row} {c : CallFact} {v : Verb} {path : String}

/-- If a row for the method serves the path, then some row answers. -/
theorem exists_answer? (hr : r ∈ rows) (hmethod : r.method = v.name ∨ r.method = Verb.any)
    (hserves : Route.serves r.fullPath path = true) :
    ∃ place, answer? (fresh rows) v path = some place := by
  have hanswer : answer? (fresh rows) v path ≠ none :=
    mt answer?_fresh_eq_none_iff.mp (not_not.mpr ⟨r, hr, hmethod, hserves⟩)
  exact Option.ne_none_iff_exists'.mp hanswer

/-- A call to a path inside that a row serves is served. -/
theorem decision_of_serves (hr : r ∈ rows) (hverb : Verb.read? c.method = some v)
    (hmethod : r.method = v.name ∨ r.method = Verb.any) (hblank : Text.isBlankText c.url = false)
    (hstanding : (b.normalize c.url).standing = .internal)
    (hpath : (b.normalize c.url).path? = some path)
    (hserves : Route.serves r.fullPath path = true) :
    ∃ place, decision b (fresh rows) c = .served place := by
  obtain ⟨place, hplace⟩ := exists_answer? hr hmethod hserves
  refine ⟨place.2, ?_⟩
  simp only [decision, hverb, hblank, hstanding, hpath, Option.getD_some, decisionAt, hplace,
    Bool.false_eq_true, if_false]

end Answer

/-! ## No issue -/

section Issues
variable {b : Boundary} {rows : List Row} {c : CallFact} {v : Verb}

/-- If every call with this method and target is served, then no issue is about such a call. -/
theorem call?_ne_of_served (hverb : Verb.read? c.method = some v)
    (hserved : ∀ d : CallFact, Verb.read? d.method = some v → d.url = c.url →
      ∃ place, decision b (fresh rows) d = .served place) (calls : List CallFact) :
    ∀ issue ∈ (run b rows calls).issues, issue.call? ≠ some (callKey c) := by
  intro issue hissue hkey
  have hname := Verb.canonical_of_read? hverb
  rcases List.mem_append.mp hissue with hissue | hissue
  · obtain ⟨made, hmade, hraised⟩ := List.mem_filterMap.mp hissue
    obtain ⟨d, -, rfl⟩ := List.mem_map.mp hmade
    have hd := issue?_eq_some_iff.mp hraised
    obtain ⟨method, hcall, hmethod⟩ := callKey_of_raised hd
    rw [hkey, callKey, hname] at hcall
    simp only [Option.some_inj, Prod.mk.injEq] at hcall
    obtain ⟨rfl, hurl, -⟩ := hcall
    have hcanonical := hmethod.resolve_right v.name_ne_unknown
    obtain ⟨place, hplace⟩ := hserved d (Verb.read?_eq_some_iff.mpr hcanonical.symm) hurl.symm
    rw [hplace] at hd
    cases hd
  · obtain ⟨r, -, rfl⟩ := List.mem_map.mp hissue
    rw [orphan_call?] at hkey
    cases hkey

end Issues

/-- A call that follows the route of a row is served, and no issue is about it. The row's route is
made of plain literals and slots; the call has a base that stays inside, its segments fill those of
the route, a query may follow, and no variable is read by an expression. -/
theorem run_template {b : Boundary} {rows : List Row} {r : Row} {c : CallFact} {v : Verb}
    {route segs : List (List Char)} {base q : List Char}
    (hr : r ∈ rows) (hverb : Verb.read? c.method = some v)
    (hmethod : r.method = v.name ∨ r.method = Verb.any)
    (hroute : r.fullPath = String.ofList (slashed route))
    (hfills : List.Forall₂ Route.Fills route segs) (hbase : b.IsInternalBase base)
    (hq : IsQuery q) (hurl : c.url = String.ofList (base ++ (slashed segs ++ q)))
    (hread : ¬ CallTarget.ReadsVariable c.url.toList) (calls : List CallFact) :
    (∃ place, decision b (fresh rows) c = .served place) ∧
      ∀ issue ∈ (run b rows calls).issues, issue.call? ≠ some (callKey c) := by
  have hraw : c.url.toList = base ++ (slashed segs ++ q) := by
    rw [hurl, String.toList_ofList]
  have hsegs := Route.forall_segs_of_fills hfills
  obtain ⟨hstanding, path, hpath, hcall⟩ := b.normalize_template hbase hsegs hq hraw hread
  have hblank : Text.isBlankText c.url = false := by
    rw [Text.isBlankText, hraw, List.all_append, List.all_append, slashed, List.all_cons]
    simp [show Text.isBlank '/' = false from by decide]
  have hserves := Route.serves_of_fills hfills hroute hcall
  have hserved : ∀ d : CallFact, Verb.read? d.method = some v → d.url = c.url →
      ∃ place, decision b (fresh rows) d = .served place := by
    intro d hd heq
    rw [← heq] at hblank hstanding hpath
    exact decision_of_serves hr hd hmethod hblank hstanding hpath hserves
  exact ⟨hserved c hverb rfl, call?_ne_of_served hverb hserved calls⟩

/-- The braces hold a slash, a question mark and a hash; the host is below an internal one. -/
theorem run_template_expression :
    let b : Boundary := { internalDomains := ["shop.internal"] }
    let r : Row := { method := "GET", fullPath := "/orders/:id", repo := "shop", owner := "app" }
    let c : CallFact :=
      { method := "get", url := "https://api.shop.internal/orders/$\x7ba ? b/c : d#e\x7d?page=1",
        callerRepo := "web" }
    b.IsInternalBase "https://api.shop.internal".toList ∧
      List.Forall₂ Route.Fills ["orders".toList, ":id".toList]
        ["orders".toList, Interpolation.spelling "a ? b/c : d#e".toList] ∧
      (∃ place, decision b (fresh [r]) c = .served place) ∧
      ∀ issue ∈ (run b [r] [c]).issues, issue.call? ≠ some (callKey c) := by
  intro b r c
  have hplain : IsPlain "orders".toList := ⟨by decide, List.all_eq_true.mp (by decide)⟩
  have hslot : Route.IsSlot ":id".toList := .inr ⟨"id".toList, rfl, by decide, by decide⟩
  have hfills : List.Forall₂ Route.Fills ["orders".toList, ":id".toList]
      ["orders".toList, Interpolation.spelling "a ? b/c : d#e".toList] :=
    .cons (.literal hplain (by decide))
      (.cons (.slot hslot (.inr ⟨_, by decide, rfl⟩)) .nil)
  have hbase : b.IsInternalBase ("https://".toList ++ "api.shop.internal".toList) :=
    .host (.inr rfl) (List.all_eq_true.mp (by decide)) (by decide)
  have hlookup : CallTarget.lookup? c.url.toList = none := by decide
  have hread := CallTarget.lookup?_eq_none_iff.mp hlookup
  have hq : IsQuery "?page=1".toList := by
    intro d hd
    cases hd
    exact .inl rfl
  exact ⟨hbase, hfills, run_template List.mem_cons_self (v := .get) (by decide) (.inl rfl) rfl
    hfills hbase hq rfl hread [c]⟩

end ServiceContracts.Matching
