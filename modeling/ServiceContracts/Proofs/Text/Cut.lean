import Mathlib.Data.List.TakeWhile
import ServiceContracts.Text.Split

/-!
# Cutting at marks that are there, or not

* `after?_eq_some_iff`, `after?_eq_none` : what follows a mark at the start;
* `cut?_of_not_mem`, `before_of_not_mem`, `behindLast_of_not_mem` : a text without the mark is left
  whole;
* `before_append_sep`, `behindLast_append_sep` : the texts in front of the first mark and behind the
  last one;
* `span_append` : a run of characters and what follows it;
* `prefix_append_sep`, `infix_append_sep` : a mark does not go over a character that it does not
  hold.
-/

namespace ServiceContracts.Text
variable {sep : Char} {mark cs front rest : List Char}

theorem after?_eq_some_iff : after? mark cs = some rest ↔ cs = mark ++ rest := by
  induction mark generalizing cs with
  | nil => rw [after?, Option.some_inj, List.nil_append]
  | cons m mark ih =>
    cases cs with
    | nil => simp [after?]
    | cons c cs =>
      rw [after?, List.cons_append, List.cons.injEq]
      by_cases hc : m = c
      · rw [if_pos hc, ih]
        exact (and_iff_right hc.symm).symm
      · rw [if_neg hc]
        exact iff_of_false (Option.some_ne_none _).symm fun h => hc h.1.symm

theorem after?_append (mark rest : List Char) : after? mark (mark ++ rest) = some rest :=
  after?_eq_some_iff.mpr rfl

theorem after?_eq_none (h : ¬ mark <+: cs) : after? mark cs = none := by
  by_contra hsome
  obtain ⟨rest, hrest⟩ := Option.ne_none_iff_exists'.mp hsome
  exact h ⟨rest, (after?_eq_some_iff.mp hrest).symm⟩

/-- A text that does not start with the mark's first character. -/
theorem after?_of_head?_ne {m : Char} (h : cs.head? ≠ some m) : after? (m :: mark) cs = none := by
  apply after?_eq_none
  rintro ⟨rest, rfl⟩
  exact h rfl

theorem cut?_eq_none (h : ¬ mark <:+: cs) : cut? mark cs = none := by
  induction cs with
  | nil => rw [cut?, after?_eq_none fun hp => h hp.isInfix, Option.map_none]
  | cons c cs ih =>
    rw [cut?, after?_eq_none fun hp => h hp.isInfix, ih fun hi => h (List.infix_cons hi)]
    rfl

theorem cut?_of_not_mem {m : Char} (hm : m ∈ mark) (h : m ∉ cs) : cut? mark cs = none :=
  cut?_eq_none fun hi => h (hi.mem hm)

theorem before_of_not_mem (h : sep ∉ cs) : before sep cs = cs :=
  List.takeWhile_eq_self_iff.mpr fun _ hc => bne_iff_ne.mpr (ne_of_mem_of_not_mem hc h)

theorem behindLast_of_not_mem (h : sep ∉ cs) : behindLast sep cs = cs := by
  have hrev : cs.reverse.takeWhile (· != sep) = cs.reverse :=
    before_of_not_mem (mt List.mem_reverse.mp h)
  rw [behindLast, hrev, List.reverse_reverse]

theorem before_append_sep (h : sep ∉ front) : before sep (front ++ sep :: rest) = front := by
  have hfront : ∀ c ∈ front, (c != sep) = true := fun c hc =>
    bne_iff_ne.mpr (ne_of_mem_of_not_mem hc h)
  rw [before, List.takeWhile_append_of_pos hfront, List.takeWhile_cons_of_neg (by simp),
    List.append_nil]

theorem behindLast_append_sep (h : sep ∉ rest) : behindLast sep (front ++ sep :: rest) = rest := by
  have hrest : before sep (rest.reverse ++ sep :: front.reverse) = rest.reverse :=
    before_append_sep (mt List.mem_reverse.mp h)
  rw [before] at hrest
  rw [behindLast, List.reverse_append, List.reverse_cons, List.append_assoc,
    List.singleton_append, hrest, List.reverse_reverse]

/-- A run of characters of one class ends where the next text starts with another one. -/
theorem span_append {p : Char → Bool} (hfront : ∀ c ∈ front, p c = true)
    (hrest : ∀ c ∈ rest.head?, p c = false) :
    (front ++ rest).takeWhile p = front ∧ (front ++ rest).dropWhile p = rest := by
  rw [List.takeWhile_append_of_pos hfront, List.dropWhile_append_of_pos hfront]
  cases rest with
  | nil => exact ⟨List.append_nil _, rfl⟩
  | cons c cs => simp [hrest c rfl]

/-- A mark without the separator at the start of a text ends in front of it. -/
theorem prefix_append_sep (h : sep ∉ mark) : mark <+: front ++ sep :: rest ↔ mark <+: front := by
  constructor
  · intro hmark
    rcases List.prefix_or_prefix_of_prefix hmark (List.prefix_append front _) with hp | ⟨tail, htail⟩
    · exact hp
    · cases tail with
      | nil => simp [← htail]
      | cons c tail =>
        rw [← htail, List.prefix_append_right_inj, List.cons_prefix_cons] at hmark
        exact absurd (by simp [← htail, hmark.1]) h
  · exact fun hp => hp.trans (List.prefix_append front _)

/-- A mark without the separator stands on one of its sides. -/
theorem infix_append_sep (h : sep ∉ mark) :
    mark <:+: front ++ sep :: rest ↔ mark <:+: front ∨ mark <:+: rest := by
  constructor
  · rintro ⟨before, behind, heq⟩
    obtain ⟨kept, rfl, -⟩ | ⟨cut, hcut, hrest⟩ := List.append_eq_append_iff.mp heq
    · exact .inl ⟨before, kept, rfl⟩
    · cases cut with
      | nil => exact .inl ⟨before, [], by simpa using hcut⟩
      | cons c cut =>
        obtain ⟨rfl, rfl⟩ := List.cons.inj hrest
        obtain ⟨half, -, rfl⟩ | ⟨skipped, -, hskipped⟩ := List.append_eq_append_iff.mp hcut
        · exact absurd (List.mem_append_right half List.mem_cons_self) h
        · cases skipped with
          | nil =>
            obtain rfl : mark = sep :: cut := hskipped.symm
            exact absurd List.mem_cons_self h
          | cons d skipped =>
            obtain ⟨-, rfl⟩ := List.cons.inj hskipped
            exact .inr ⟨skipped, behind, rfl⟩
  · rintro (hfront | hrest)
    · exact hfront.trans (List.prefix_append front _).isInfix
    · exact hrest.trans ⟨front ++ [sep], [], by simp⟩

end ServiceContracts.Text
