import Mathlib.Data.List.Infix
import ServiceContracts.Proofs.Text.Cut

/-!
# How often a mark occurs

* `occurrences` : the number of places where a mark starts;
* `occurrences_eq_zero_iff` : there is none just if the mark is nowhere in the text;
* `occurrences_append_sep` : no occurrence goes over a character that the mark does not hold;
* `occurrences_cons_of_ne`, `occurrences_concat_of_ne` : none starts or ends with a character other
  than the mark's first or last one.
-/

namespace ServiceContracts.Text
variable {mark cs front rest : List Char} {c sep : Char}

/-- How often a mark occurs in a text. -/
def occurrences (mark cs : List Char) : Nat := cs.tails.countP fun tail => mark.isPrefixOf tail

theorem occurrences_cons (mark : List Char) (c : Char) (cs : List Char) :
    occurrences mark (c :: cs) = occurrences mark cs + if mark <+: c :: cs then 1 else 0 := by
  rw [occurrences, List.tails_cons, List.countP_cons]
  simp only [List.isPrefixOf_iff_prefix]
  rfl

theorem occurrences_eq_zero_iff : occurrences mark cs = 0 ↔ ¬ mark <:+: cs := by
  rw [occurrences, List.countP_eq_zero, List.infix_iff_prefix_suffix]
  simp only [List.mem_tails, List.isPrefixOf_iff_prefix]
  grind

theorem occurrences_of_not_mem (hc : c ∈ mark) (h : c ∉ cs) : occurrences mark cs = 0 :=
  occurrences_eq_zero_iff.mpr fun hi => h (hi.mem hc)

theorem occurrences_nil (h : mark ≠ []) : occurrences mark [] = 0 :=
  occurrences_eq_zero_iff.mpr fun hi => h (List.infix_nil.mp hi)

theorem occurrences_cons_of_ne {m : Char} (h : m ≠ c) :
    occurrences (m :: mark) (c :: cs) = occurrences (m :: mark) cs := by
  rw [occurrences_cons, if_neg (fun hp => h (List.cons_prefix_cons.mp hp).1), Nat.add_zero]

theorem occurrences_append_sep (hmark : mark ≠ []) (h : sep ∉ mark) :
    occurrences mark (front ++ sep :: rest) = occurrences mark front + occurrences mark rest := by
  induction front with
  | nil =>
    have hhead : ¬ mark <+: sep :: rest := by
      intro hp
      rw [← List.nil_append (sep :: rest), prefix_append_sep h] at hp
      exact hmark (List.prefix_nil.mp hp)
    rw [List.nil_append, occurrences_cons, if_neg hhead, occurrences_nil hmark, Nat.add_zero,
      Nat.zero_add]
  | cons c front ih =>
    have hhead : mark <+: c :: (front ++ sep :: rest) ↔ mark <+: c :: front := by
      rw [← List.cons_append, prefix_append_sep h]
    rw [List.cons_append, occurrences_cons, ih, occurrences_cons]
    simp only [hhead]
    omega

theorem occurrences_concat_of_ne {m : Char} (h : m ≠ c) (cs : List Char) :
    occurrences (mark ++ [m]) (cs ++ [c]) = occurrences (mark ++ [m]) cs := by
  induction cs with
  | nil =>
    rw [List.nil_append, occurrences_of_not_mem (c := m) (by simp) (by simpa using h),
      occurrences_nil (by simp)]
  | cons d cs ih =>
    have hhead : mark ++ [m] <+: d :: (cs ++ [c]) ↔ mark ++ [m] <+: d :: cs := by
      rw [← List.cons_append, List.prefix_concat_iff]
      refine or_iff_right fun heq => h ?_
      exact List.singleton_inj.mp (List.append_inj' heq rfl).2
    rw [List.cons_append, occurrences_cons, ih, occurrences_cons]
    simp only [hhead]

end ServiceContracts.Text
