import Mathlib.Data.List.DropRight
import ServiceContracts.Proofs.Path.Join
import ServiceContracts.Route

/-!
# Which calls a route serves

The rule is said of the texts between the slashes, without the order in which they are read: every
segment in front of the skippable tail and of the first catch-all takes one segment of the call, and
a route without a catch-all serves no call that is longer than it.

* `SpellsCatchAll`, `SpellsOptional`, `SpellsSkippable` : the kinds of segments, by their texts;
* `required` : how many segments have to take one of the call;
* `Grammar` : the rule;
* `accepts_iff` : reading from left to right decides the rule;
* `serves_iff` : the same for paths, the shortcut for equal paths included.
-/

namespace ServiceContracts.Route

/-! ## Kinds of segments -/

/-- The text of a segment that takes all that remains. -/
def SpellsCatchAll (s : List Char) : Prop := s = "**".toList ∨ s = "(.*)".toList

/-- The text of a parameter that may be missing at the end. -/
def SpellsOptional (s : List Char) : Prop := s.head? = some ':' ∧ s.getLast? = some '?'

/-- The text of a segment that the tail of a route may hold. -/
def SpellsSkippable (s : List Char) : Prop := SpellsOptional s ∨ SpellsCatchAll s

instance : DecidablePred SpellsCatchAll := fun s =>
  inferInstanceAs (Decidable (s = "**".toList ∨ s = "(.*)".toList))

instance : DecidablePred SpellsOptional := fun s =>
  inferInstanceAs (Decidable (s.head? = some ':' ∧ s.getLast? = some '?'))

instance : DecidablePred SpellsSkippable := fun s =>
  inferInstanceAs (Decidable (SpellsOptional s ∨ SpellsCatchAll s))

namespace Segment

/-- How a text is read, by its kind. -/
theorem read_cases (s : List Char) :
    (SpellsCatchAll s ∧ (read s = everything ∨ read s = anyGroup)) ∨
    (s = "*".toList ∧ read s = wildcard) ∨
    (∃ name, s = ':' :: (name ++ ['?']) ∧ read s = optional name) ∨
    (∃ name, s = ':' :: name ∧ name.getLast? ≠ some '?' ∧ read s = parameter name) ∨
    (¬ SpellsCatchAll s ∧ s ≠ "*".toList ∧ s.head? ≠ some ':' ∧ read s = literal s) := by
  by_cases htwo : s = ['*', '*']
  · exact .inl ⟨.inl htwo, .inl (htwo ▸ rfl)⟩
  by_cases hgroup : s = ['(', '.', '*', ')']
  · exact .inl ⟨.inr hgroup, .inr (hgroup ▸ rfl)⟩
  by_cases hone : s = ['*']
  · exact .inr (.inl ⟨hone, hone ▸ rfl⟩)
  by_cases hcolon : s.head? = some ':'
  · obtain ⟨name, rfl⟩ := List.head?_eq_some_iff.mp hcolon
    by_cases hlast : name.getLast? = some '?'
    · obtain ⟨front, rfl⟩ := List.getLast?_eq_some_iff.mp hlast
      exact .inr (.inr (.inl ⟨front, rfl, by simp [read]⟩))
    · exact .inr (.inr (.inr (.inl ⟨name, rfl, hlast, by simp [read, hlast]⟩)))
  · refine .inr (.inr (.inr (.inr ⟨not_or.mpr ⟨htwo, hgroup⟩, hone, hcolon, ?_⟩)))
    unfold read
    simp only [htwo, hgroup, hone, if_false]
    split
    · exact absurd rfl hcolon
    · rfl

theorem not_spellsCatchAll_colon (name : List Char) : ¬ SpellsCatchAll (':' :: name) := by
  simp [SpellsCatchAll]

/-- The question mark of an optional parameter ends its name. -/
theorem getLast?_of_spellsOptional {name : List Char} (h : SpellsOptional (':' :: name)) :
    name.getLast? = some '?' := by
  have hlast := h.2
  rw [List.getLast?_cons] at hlast
  cases hname : name.getLast? with
  | none =>
    rw [hname] at hlast
    cases hlast
  | some c =>
    rw [hname] at hlast
    exact hlast

theorem isCatchAll_read {s : List Char} : (read s).isCatchAll = true ↔ SpellsCatchAll s := by
  obtain ⟨h, hr | hr⟩ | ⟨rfl, hr⟩ | ⟨name, rfl, hr⟩ | ⟨name, rfl, -, hr⟩ | ⟨h, -, -, hr⟩ :=
    read_cases s <;> rw [hr]
  · simp [h, isCatchAll]
  · simp [h, isCatchAll]
  · simp [SpellsCatchAll, isCatchAll]
  · simp [not_spellsCatchAll_colon, isCatchAll]
  · simp [not_spellsCatchAll_colon, isCatchAll]
  · simp [h, isCatchAll]

theorem isOptional_read {s : List Char} : (read s).isOptional = true ↔ SpellsOptional s := by
  obtain ⟨hcatch, hr⟩ | ⟨rfl, hr⟩ | ⟨name, rfl, hr⟩ | ⟨name, rfl, hlast, hr⟩ |
    ⟨-, -, hhead, hr⟩ := read_cases s
  · have hhead : s.head? ≠ some ':' := by rcases hcatch with rfl | rfl <;> decide
    have hno : ¬ SpellsOptional s := fun h => hhead h.1
    rcases hr with hr | hr <;> rw [hr] <;> exact iff_of_false Bool.false_ne_true hno
  · rw [hr]
    exact iff_of_false Bool.false_ne_true (by decide)
  · rw [hr]
    exact iff_of_true rfl ⟨rfl, by rw [← List.cons_append, List.getLast?_concat]⟩
  · rw [hr]
    exact iff_of_false Bool.false_ne_true fun h => hlast (getLast?_of_spellsOptional h)
  · rw [hr]
    exact iff_of_false Bool.false_ne_true fun h => hhead h.1

theorem isSkippable_read {s : List Char} : (read s).isSkippable = true ↔ SpellsSkippable s := by
  rw [isSkippable, Bool.or_eq_true, isOptional_read, isCatchAll_read, SpellsSkippable]

/-- A segment that is no catch-all takes any text if it is dynamic, and else its own. -/
theorem takes_read {s called : List Char} (hcatch : ¬ SpellsCatchAll s) :
    (read s).takes called = true ↔ s.head? = some ':' ∨ s = "*".toList ∨ called = s := by
  obtain ⟨h, -⟩ | ⟨rfl, hr⟩ | ⟨name, rfl, hr⟩ | ⟨name, rfl, -, hr⟩ | ⟨-, hstar, hhead, hr⟩ :=
    read_cases s
  · exact absurd h hcatch
  all_goals rw [hr]
  · simp [takes]
  · simp [takes]
  · simp [takes]
  · simp only [takes, beq_iff_eq, hhead, hstar, false_or]
    exact eq_comm

end Segment

/-! ## The rule -/

/-- How many segments of a route take one segment of a call each: those in front of the longest
skippable tail and of the first catch-all. -/
def required (route : List (List Char)) : Nat :=
  min (route.rdropWhile fun s => decide (SpellsSkippable s)).length
    (route.findIdx fun s => decide (SpellsCatchAll s))

/-- The rule by which the segments `route` serve the segments `call`. -/
structure Grammar (route call : List (List Char)) : Prop where
  enough : required route ≤ call.length
  taken : ∀ i < required route, ∃ s, route[i]? = some s ∧
    (s.head? = some ':' ∨ s = "*".toList ∨ call[i]? = some s)
  fits : (∀ s ∈ route, ¬ SpellsCatchAll s) → call.length ≤ route.length

section Rule
variable {s : List Char} {route call : List (List Char)}

theorem required_le_length (route : List (List Char)) : required route ≤ route.length :=
  Nat.le_trans (Nat.min_le_right _ _) List.findIdx_le_length

theorem required_catchAll (h : SpellsCatchAll s) : required (s :: route) = 0 := by
  rw [required, List.findIdx_cons, decide_eq_true h]
  exact Nat.min_zero _

theorem required_skippable (h : ∀ s ∈ route, SpellsSkippable s) : required route = 0 := by
  rw [required, List.rdropWhile_eq_nil_iff.mpr fun s hs => decide_eq_true (h s hs)]
  exact Nat.zero_min _

/-- A segment in front that is neither a catch-all nor a part of the tail is required. -/
theorem required_cons (hcatch : ¬ SpellsCatchAll s)
    (htail : ¬ ∀ t ∈ s :: route, SpellsSkippable t) : required (s :: route) = required route + 1 := by
  have hkept : (s :: route).rdropWhile (fun t => decide (SpellsSkippable t)) =
      s :: route.rdropWhile fun t => decide (SpellsSkippable t) := by
    rw [List.rdropWhile, List.reverse_cons, List.dropWhile_append]
    split
    · next hnil =>
      have hroute : ∀ t ∈ route, SpellsSkippable t := by
        simpa using List.dropWhile_eq_nil_iff.mp (List.isEmpty_iff.mp hnil)
      have hs : ¬ SpellsSkippable s := fun hs => htail (List.forall_mem_cons.mpr ⟨hs, hroute⟩)
      rw [List.dropWhile_cons_of_neg (by simpa using hs), List.rdropWhile, List.isEmpty_iff.mp hnil]
      rfl
    · rw [List.reverse_append]
      rfl
  rw [required, hkept, List.findIdx_cons, decide_eq_false hcatch, List.length_cons]
  exact Nat.succ_min_succ _ _

theorem grammar_nil : Grammar [] call ↔ call = [] := by
  constructor
  · intro h
    exact List.length_eq_zero_iff.mp (Nat.le_zero.mp (h.fits (by simp)))
  · rintro rfl
    exact ⟨Nat.zero_le _, fun i hi => absurd hi (Nat.not_lt_zero i), fun _ => Nat.le_refl _⟩

theorem grammar_catchAll (h : SpellsCatchAll s) : Grammar (s :: route) call := by
  refine ⟨?_, ?_, fun hno => absurd h (hno s List.mem_cons_self)⟩
  · rw [required_catchAll h]
    exact Nat.zero_le _
  · intro i hi
    rw [required_catchAll h] at hi
    exact absurd hi (Nat.not_lt_zero i)

/-- In the tail only the number of segments counts. -/
theorem grammar_skippable (h : ∀ s ∈ route, SpellsSkippable s) :
    Grammar route call ↔ ((∀ s ∈ route, ¬ SpellsCatchAll s) → call.length ≤ route.length) := by
  have hzero := required_skippable h
  refine ⟨fun hg => hg.fits, fun hfits => ⟨?_, ?_, hfits⟩⟩
  · rw [hzero]
    exact Nat.zero_le _
  · intro i hi
    rw [hzero] at hi
    exact absurd hi (Nat.not_lt_zero i)

/-- In front of the tail the first segment takes the first one of the call. -/
theorem grammar_cons {called : List Char} (hcatch : ¬ SpellsCatchAll s)
    (htail : ¬ ∀ t ∈ s :: route, SpellsSkippable t) :
    Grammar (s :: route) (called :: call) ↔
      (s.head? = some ':' ∨ s = "*".toList ∨ called = s) ∧ Grammar route call := by
  have hreq := required_cons hcatch htail
  constructor
  · intro h
    obtain ⟨t, ht, htaken⟩ := h.taken 0 (by omega)
    cases ht
    refine ⟨by simpa using htaken, ?_, ?_, ?_⟩
    · have := h.enough
      rw [hreq, List.length_cons] at this
      omega
    · intro i hi
      simpa using h.taken (i + 1) (by omega)
    · intro hno
      have := h.fits (List.forall_mem_cons.mpr ⟨hcatch, hno⟩)
      simpa using this
  · rintro ⟨hfirst, h⟩
    refine ⟨?_, ?_, ?_⟩
    · rw [hreq, List.length_cons]
      exact Nat.succ_le_succ h.enough
    · intro i hi
      cases i with
      | zero => exact ⟨s, rfl, by simpa using hfirst⟩
      | succ i => simpa using h.taken i (by omega)
    · intro hno
      simpa using h.fits fun t ht => hno t (List.mem_cons_of_mem s ht)

theorem not_grammar_cons_nil (hcatch : ¬ SpellsCatchAll s)
    (htail : ¬ ∀ t ∈ s :: route, SpellsSkippable t) : ¬ Grammar (s :: route) [] := by
  intro h
  have := h.enough
  rw [required_cons hcatch htail, List.length_nil] at this
  omega

end Rule

/-- Every route serves the call that repeats it. -/
theorem Grammar.refl (route : List (List Char)) : Grammar route route := by
  refine ⟨required_le_length route, fun i hi => ?_, fun _ => Nat.le_refl _⟩
  have hlt := Nat.lt_of_lt_of_le hi (required_le_length route)
  exact ⟨route[i], List.getElem?_eq_getElem hlt, .inr (.inr (List.getElem?_eq_getElem hlt))⟩

theorem all_isSkippable_iff {route : List (List Char)} :
    (route.map Segment.read).all Segment.isSkippable = true ↔ ∀ s ∈ route, SpellsSkippable s := by
  rw [List.all_map, List.all_eq_true]
  exact forall₂_congr fun s _ => Segment.isSkippable_read

/-- Reading from left to right decides the rule. -/
theorem accepts_iff (route call : List (List Char)) :
    accepts (route.map Segment.read) call = true ↔ Grammar route call := by
  induction route generalizing call with
  | nil => rw [List.map_nil, accepts, List.isEmpty_iff, grammar_nil]
  | cons s route ih =>
    rw [List.map_cons]
    unfold accepts
    by_cases hcatch : SpellsCatchAll s
    · rw [if_pos (Segment.isCatchAll_read.mpr hcatch)]
      exact iff_of_true rfl (grammar_catchAll hcatch)
    rw [if_neg (mt Segment.isCatchAll_read.mp hcatch), ← List.map_cons]
    by_cases htail : ∀ t ∈ s :: route, SpellsSkippable t
    · have hroute := (List.forall_mem_cons.mp htail).2
      rw [if_pos (all_isSkippable_iff.mpr htail), ih, grammar_skippable hroute,
        grammar_skippable htail, List.forall_mem_cons, List.length_tail, List.length_cons]
      simp [hcatch]
    · rw [if_neg (mt all_isSkippable_iff.mp htail)]
      cases call with
      | nil => exact iff_of_false Bool.false_ne_true (not_grammar_cons_nil hcatch htail)
      | cons called call =>
        rw [Bool.and_eq_true, ih, Segment.takes_read hcatch, grammar_cons hcatch htail]

/-- The shortcut for equal paths makes no difference. -/
theorem serves_eq_accepts (endpoint call : String) :
    serves endpoint call = accepts (read endpoint) (Path.segments call.toList) := by
  rw [serves]
  by_cases heq : endpoint = call
  · subst heq
    rw [read, (accepts_iff _ _).mpr (.refl _), Bool.or_true]
  · rw [beq_eq_false_iff_ne.mpr heq, Bool.false_or]

/-- A path serves the calls that its segments allow and no others; that equal paths are accepted
without a look at their segments makes no difference. The segments tell a path up to slashes in
front, at the end or in a row, so these do not count, and every path serves the call that repeats
it. -/
theorem serves_iff (endpoint call : String) :
    (serves endpoint call = true ↔
      Grammar (Path.segments endpoint.toList) (Path.segments call.toList)) ∧
    serves endpoint call = accepts (read endpoint) (Path.segments call.toList) ∧
    (∀ endpoint' call', Path.segments endpoint'.toList = Path.segments endpoint.toList →
      Path.segments call'.toList = Path.segments call.toList →
      serves endpoint' call' = serves endpoint call) ∧
    (∀ path path', Path.segments path' = Path.segments path ↔ Path.SameButSlashes path path') ∧
    serves endpoint endpoint = true := by
  refine ⟨?_, serves_eq_accepts endpoint call, ?_, fun _ _ => Path.segments_eq_iff, ?_⟩
  · rw [serves_eq_accepts, read, accepts_iff]
  · intro endpoint' call' hendpoint hcall
    rw [serves_eq_accepts, serves_eq_accepts, read, read, hendpoint, hcall]
  · rw [serves_eq_accepts, read, accepts_iff]
    exact .refl _

/-- The optional segment may be missing, and slashes at the end do not count. -/
theorem serves_iff_slashes :
    Path.segments "//users/".toList = Path.segments "/users".toList ∧
      serves "/users/:id?" "//users/" = serves "/users/:id?" "/users" ∧
      serves "/users/:id?" "/users" = true := by
  have hsame : Path.segments "//users/".toList = Path.segments "/users".toList := by decide
  have hgrammar := (serves_iff "/users/:id?" "/users").1
  refine ⟨hsame, (serves_iff "/users/:id?" "/users").2.2.1 _ "//users/" rfl hsame, ?_⟩
  exact hgrammar.mpr ((accepts_iff _ _).mp (by decide))

end ServiceContracts.Route
