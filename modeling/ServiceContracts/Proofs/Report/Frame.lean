import Mathlib.Algebra.BigOperators.Ring.List
import Mathlib.Tactic.Linarith
import Mathlib.Tactic.Ring
import ServiceContracts.Proofs.Number.Decimal
import ServiceContracts.Proofs.Report.Layout

/-!
# Sums over the lines of the Markdown report

A line of a report is a marker, or it frames the findings, or it shows one of them. The lines that
frame are plain, and there are as many of them as the kinds of findings require; so a sum over all
lines is a sum over the findings but for what the markers and the plain lines add.

* `IsPlain` : the lines that frame a report are plain;
* `frameLines` : how many of them there are, given the kinds of findings;
* `sum_layout` : a sum over the lines of a report.
-/

namespace ServiceContracts.Report

/-! ## Plain lines -/

/-- A line that neither breaks nor is a comment. -/
def IsPlain (l : String) : Prop := l.toList.all (fun c => c != '\n' && c != '!') = true

instance (l : String) : Decidable (IsPlain l) := inferInstanceAs (Decidable (_ = true))

section Plain

theorem isPlain_iff {l : String} : IsPlain l ↔ '\n' ∉ l.toList ∧ '!' ∉ l.toList := by
  simp only [IsPlain, List.all_eq_true, Bool.and_eq_true, bne_iff_ne]
  exact ⟨fun h => ⟨fun hmem => (h _ hmem).1 rfl, fun hmem => (h _ hmem).2 rfl⟩,
    fun h c hc => ⟨ne_of_mem_of_not_mem hc h.1, ne_of_mem_of_not_mem hc h.2⟩⟩

theorem isPlain_ofList {cs : List Char} (h : cs.all (fun c => c != '\n' && c != '!') = true) :
    IsPlain (String.ofList cs) := by
  rw [IsPlain, String.toList_ofList, h]

theorem isPlain_empty : IsPlain "" := by decide

theorem isPlain_append {l m : String} : IsPlain (l ++ m) ↔ IsPlain l ∧ IsPlain m := by
  rw [IsPlain, String.toList_append, List.all_append, Bool.and_eq_true, IsPlain, IsPlain]

theorem isPlain_nat (n : Nat) : IsPlain (toString n) := by
  rw [isPlain_iff, Nat.toString_eq_repr, Nat.toList_repr]
  constructor <;> exact fun hmem => absurd (Number.isDigit_of_mem_natText hmem) (by decide)

theorem isPlain_int (i : Int) : IsPlain (toString i) := by
  cases i with
  | ofNat n => exact isPlain_nat n
  | negSucc n => exact isPlain_append.mpr ⟨isPlain_ofList (by decide), isPlain_nat (n + 1)⟩

theorem isPlain_intercalate {between : String} (hbetween : IsPlain between) {ls : List String}
    (h : ∀ l ∈ ls, IsPlain l) : IsPlain (between.intercalate ls) := by
  induction ls with
  | nil => exact isPlain_empty
  | cons l ls ih =>
    obtain ⟨hl, hls⟩ := List.forall_mem_cons.mp h
    cases ls with
    | nil => exact hl
    | cons m ls =>
      rw [String.intercalate_cons_cons]
      exact isPlain_append.mpr ⟨isPlain_append.mpr ⟨hl, hbetween⟩, ih hls⟩

theorem isPlain_row {cells : List String} (h : ∀ cell ∈ cells, IsPlain cell) :
    IsPlain (row cells) := by
  have hbetween : IsPlain " | " := isPlain_ofList (by decide)
  rw [row, isPlain_append, isPlain_append]
  exact ⟨⟨isPlain_ofList (by decide), isPlain_intercalate hbetween h⟩, isPlain_ofList (by decide)⟩

theorem isPlain_tableHead {names : List String} (h : ∀ name ∈ names, IsPlain name) :
    ∀ l ∈ tableHead names, IsPlain l := by
  simp only [tableHead, List.forall_mem_cons, List.not_mem_nil, false_imp_iff, implies_true, and_true]
  refine ⟨isPlain_row h, isPlain_row (List.forall_mem_map.mpr fun _ _ => ?_)⟩
  exact isPlain_ofList (by decide)

theorem isPlain_bold {s : String} (h : IsPlain s) : IsPlain (bold s) := by
  rw [bold, isPlain_append, isPlain_append]
  exact ⟨⟨isPlain_ofList (by decide), h⟩, isPlain_ofList (by decide)⟩

theorem isPlain_counted (n : Nat) {things : String} (h : IsPlain things) :
    IsPlain (counted n things) := by
  apply isPlain_bold
  rw [isPlain_append, isPlain_append]
  exact ⟨⟨isPlain_nat n, isPlain_ofList (by decide)⟩, h⟩

theorem isPlain_openingLines (f : Findings) : ∀ l ∈ (openingLines f).drop 2, IsPlain l := by
  simp only [openingLines, bold, List.drop_succ_cons, List.drop_zero, List.forall_mem_cons,
    isPlain_append, isPlain_int, true_and]
  and_intros <;> first | exact isPlain_ofList (by decide) | simp

theorem isPlain_totals (f : Findings) : IsPlain (totals f) := by
  unfold totals
  simp only [isPlain_append, and_assoc]
  refine ⟨?_, isPlain_counted _ ?_, ?_, isPlain_counted _ ?_, ?_, isPlain_counted _ ?_, ?_,
    isPlain_counted _ ?_, ?_, isPlain_counted _ ?_, ?_, isPlain_counted _ ?_, ?_⟩
  all_goals exact isPlain_ofList (by decide)

theorem isPlain_title (t : Topic) (n : Nat) : IsPlain (t.title n) := by
  cases t <;> exact isPlain_append.mpr ⟨isPlain_nat n, isPlain_ofList (by decide)⟩

theorem isPlain_note (t : Topic) : IsPlain t.note := by
  cases t with
  | structural | dependencies => exact isPlain_ofList (by decide)
  | mismatches | connectivity | configuration =>
    exact isPlain_append.mpr ⟨isPlain_ofList (by decide), isPlain_ofList (by decide)⟩

theorem isPlain_heading (k : Kind) (n : Nat) : ∀ l ∈ k.heading n, IsPlain l := by
  have hplural : IsPlain (if n = 1 then "" else "s") := by
    split <;> exact isPlain_ofList (by decide)
  cases k <;> simp only [Kind.heading, List.forall_mem_cons, isPlain_append, isPlain_nat, hplural,
    List.not_mem_nil, false_imp_iff, implies_true, and_true]
  all_goals and_intros <;> exact isPlain_ofList (by decide)

theorem isPlain_columns (k : Kind) : ∀ l ∈ k.columns.elim [] tableHead, IsPlain l := by
  cases hcolumns : k.columns with
  | none => simp
  | some names =>
    refine isPlain_tableHead fun name hname => ?_
    cases k <;> cases hcolumns <;> revert name hname <;>
      simp only [List.forall_mem_cons, List.not_mem_nil, false_imp_iff, implies_true, and_true]
    all_goals and_intros <;> exact isPlain_ofList (by decide)

theorem isPlain_closing (k : Kind) : ∀ l ∈ k.closing, IsPlain l := by
  cases k <;> simp only [Kind.closing, List.forall_mem_cons, List.not_mem_nil, false_imp_iff,
    implies_true, and_true]
  exact isPlain_ofList (by decide)

end Plain

/-! ## Sums over the lines -/

/-- The lines that frame the findings of a kind. -/
def Kind.frame : Kind → Nat
  | diagnostic | suggestion => 0
  | mismatch | conflict => 2
  | missing => 5
  | orphaned => 4

/-- The lines of a report besides the three markers and those that show a finding, given the kinds
of which there are findings. -/
def frameLines (has : Kind → Bool) : Nat :=
  if Kind.all.any has then
    5 + 12 * (Topic.all.filter fun t => t.kinds.any has).length +
      ((Kind.all.filter has).map Kind.frame).sum
  else 7

/-- There are findings of the kind. -/
def has (f : Findings) (k : Kind) : Bool := (findings f).any fun x => x.kind = k

section Presence
variable {f : Findings} {k : Kind} {t : Topic}

theorem isEmpty_shown (f : Findings) (k : Kind) : (shown f k).isEmpty = !has f k := by
  rw [Bool.eq_iff_iff, List.isEmpty_iff, Bool.not_eq_true', has, List.any_eq_false,
    List.eq_nil_iff_forall_not_mem]
  simp [mem_shown]

theorem isEmpty_shownIn (f : Findings) (t : Topic) :
    (shownIn f t).isEmpty = !t.kinds.any (has f) := by
  rw [shownIn, Bool.eq_iff_iff, List.isEmpty_iff, List.flatMap_eq_nil_iff]
  simp only [← List.isEmpty_iff, isEmpty_shown]
  simp

theorem count_eq_zero_iff : f.count = 0 ↔ Kind.all.any (has f) = false := by
  have hall : ∀ k, k ∈ Kind.all := fun k => by cases k <;> decide
  rw [count_eq_length, List.length_eq_zero_iff, List.any_eq_false, List.eq_nil_iff_forall_not_mem]
  simp only [hall, has, List.any_eq_true, decide_eq_true_iff, forall_const]
  constructor
  · rintro hnone k ⟨x, hx, -⟩
    exact hnone x hx
  · exact fun hnone x hx => hnone x.kind ⟨x, hx, rfl⟩

theorem topics_eq (f : Findings) : topics f = Topic.all.filter fun t => t.kinds.any (has f) := by
  rw [topics]
  simp only [isEmpty_shownIn, Bool.not_not]

end Presence

section Blocks
variable {ν : String → Nat}

theorem sum_flatMap {α : Type} (blocks : α → List String) (as : List α) :
    ((as.flatMap blocks).map ν).sum = (as.map fun a => ((blocks a).map ν).sum).sum := by
  induction as with
  | nil => rfl
  | cons a as ih =>
    rw [List.flatMap_cons, List.map_append, List.sum_append, ih, List.map_cons, List.sum_cons]

/-- Between every two blocks the lines between them are counted. -/
theorem sum_intercalate (between : List String) {blocks : List (List String)} (h : blocks ≠ []) :
    ((between.intercalate blocks).map ν).sum + (between.map ν).sum =
      (blocks.map fun block => (block.map ν).sum + (between.map ν).sum).sum := by
  induction blocks with
  | nil => exact absurd rfl h
  | cons block blocks ih =>
    cases blocks with
    | nil => simp [List.intercalate]
    | cons next blocks =>
      have := ih (by simp)
      rw [List.intercalate_cons_cons, List.map_append, List.map_append, List.sum_append,
        List.sum_append, List.map_cons, List.sum_cons]
      omega

/-- What counts for nothing may be left out. -/
theorem sum_filter {α : Type} {p : α → Bool} {g : α → Nat} {as : List α}
    (h : ∀ a ∈ as, p a = false → g a = 0) : ((as.filter p).map g).sum = (as.map g).sum := by
  induction as with
  | nil => rfl
  | cons a as ih =>
    obtain ⟨ha, has⟩ := List.forall_mem_cons.mp h
    rw [List.filter_cons, List.map_cons, List.sum_cons, ← ih has]
    cases hp : p a with
    | true => simp
    | false => simp [ha hp]

end Blocks

section Sums
variable {ν : String → Nat} {e : Nat} (hplain : ∀ l, IsPlain l → ν l = e)
include hplain

theorem sum_of_plain {ls : List String} (h : ∀ l ∈ ls, IsPlain l) :
    (ls.map ν).sum = e * ls.length := by
  rw [List.map_congr_left fun l hl => hplain l (h l hl), List.map_const',
    List.sum_replicate_nat, Nat.mul_comm]

theorem sum_partLines (k : Kind) (xs : List Finding) : ((partLines k xs).map ν).sum =
    e * (if xs.isEmpty then 0 else k.frame) + (xs.map fun x => ν x.line).sum := by
  rw [partLines]
  cases hempty : xs.isEmpty with
  | true =>
    rw [List.isEmpty_iff.mp hempty]
    rfl
  | false =>
    have hframe : (k.heading xs.length).length + (k.columns.elim [] tableHead).length +
        k.closing.length = k.frame := by
      cases k <;> rfl
    simp only [Bool.false_eq_true, if_false, List.map_append, List.sum_append, List.map_map,
      sum_of_plain hplain (isPlain_heading k _), sum_of_plain hplain (isPlain_columns k),
      sum_of_plain hplain (isPlain_closing k)]
    rw [← hframe]
    simp only [Function.comp_def]
    ring

theorem sum_framed {title : String} (htitle : IsPlain title) (body : List String) :
    ((framed title body).map ν).sum = e * 7 + (body.map ν).sum := by
  have hopening : ∀ l ∈ ["<details>", "<summary>", "<strong>" ++ title ++ "</strong>", "</summary>",
      ""], IsPlain l := by
    simp only [List.forall_mem_cons, isPlain_append, htitle, List.not_mem_nil, false_imp_iff,
      implies_true, and_true]
    and_intros <;> exact isPlain_ofList (by decide)
  have hclosing : ∀ l ∈ ["", "</details>"], IsPlain l := by
    simp only [List.forall_mem_cons, List.not_mem_nil, false_imp_iff, implies_true, and_true]
    and_intros <;> exact isPlain_ofList (by decide)
  simp only [framed, List.map_append, List.sum_append, sum_of_plain hplain hopening,
    sum_of_plain hplain hclosing, List.length_cons, List.length_nil]
  ring

theorem sum_sectionLines (f : Findings) (t : Topic) : ((sectionLines f t).map ν).sum =
    e * 9 + (t.kinds.map fun k => ((partLines k (shown f k)).map ν).sum).sum := by
  have hnote : ∀ l ∈ [t.note, ""], IsPlain l := by
    simp only [List.forall_mem_cons, isPlain_note, List.not_mem_nil, false_imp_iff, implies_true,
      true_and, and_true]
    exact isPlain_ofList (by decide)
  rw [sectionLines, sum_framed hplain (isPlain_title t _), List.map_append, List.sum_append,
    sum_of_plain hplain hnote, sum_flatMap]
  simp only [List.length_cons, List.length_nil]
  ring

theorem sum_openingLines (f : Findings) :
    ((openingLines f).map ν).sum = ν startMarker + ν (countMarker f.count) + e * 4 := by
  have hrest := sum_of_plain hplain (isPlain_openingLines f)
  simp only [openingLines, List.drop_succ_cons, List.drop_zero, List.length_cons,
    List.length_nil] at hrest
  rw [openingLines, List.map_cons, List.map_cons, List.sum_cons, List.sum_cons, hrest]
  ring

/-- Every finding is in one part, and every part in the section of its topic. -/
theorem sum_parts (f : Findings) :
    ((topics f).map fun t =>
      (t.kinds.map fun k => ((partLines k (shown f k)).map ν).sum).sum).sum =
    e * ((Kind.all.filter (has f)).map Kind.frame).sum +
      ((findings f).map fun x => ν x.line).sum := by
  have hnone : ∀ t ∈ Topic.all, (!(shownIn f t).isEmpty) = false →
      (t.kinds.map fun k => ((partLines k (shown f k)).map ν).sum).sum = 0 := by
    intro t _ hempty
    rw [Bool.not_eq_false', shownIn, List.isEmpty_iff, List.flatMap_eq_nil_iff] at hempty
    refine List.sum_eq_zero fun n hn => ?_
    obtain ⟨k, hk, rfl⟩ := List.mem_map.mp hn
    rw [hempty k hk]
    rfl
  have hkinds : (Topic.all.map fun t =>
      (t.kinds.map fun k => ((partLines k (shown f k)).map ν).sum).sum).sum =
      (Kind.all.map fun k => ((partLines k (shown f k)).map ν).sum).sum := by
    simp only [Topic.all, Topic.kinds, Kind.all, List.map_cons, List.map_nil, List.sum_cons,
      List.sum_nil]
    ring
  have hframe : (Kind.all.map fun k => if (shown f k).isEmpty then 0 else k.frame).sum =
      ((Kind.all.filter (has f)).map Kind.frame).sum := by
    rw [← sum_filter (p := has f) fun k _ hk => by simp [isEmpty_shown, hk]]
    congr 1
    refine List.map_congr_left fun k hk => ?_
    simp [isEmpty_shown, (List.mem_filter.mp hk).2]
  have hlines : (Kind.all.map fun k => ((shown f k).map fun x => ν x.line).sum).sum =
      ((findings f).map fun x => ν x.line).sum := by
    rw [← ((shown_all_perm f).map fun x => ν x.line).sum_eq]
    simp [Kind.all]
  rw [topics, sum_filter hnone, hkinds]
  simp only [sum_partLines hplain, List.sum_map_add, List.sum_map_mul_left, hframe, hlines]

/-- A sum over the lines of a report: markers, frame, and one line for each finding. -/
theorem sum_layout (f : Findings) : ((layout f).map ν).sum =
    ν startMarker + ν (countMarker f.count) + ν endMarker + e * frameLines (has f) +
      ((findings f).map fun x => ν x.line).sum := by
  have hempty : ν "" = e := hplain _ isPlain_empty
  have hbody : ((layoutBody f).map ν).sum + e * 6 =
      e * frameLines (has f) + ((findings f).map fun x => ν x.line).sum := by
    rw [layoutBody, frameLines]
    split
    · next hcount =>
      have hnone : ν "**No API inconsistencies detected.**" = e :=
        hplain _ (isPlain_ofList (by decide))
      have hfindings : findings f = [] := by
        rw [← List.length_eq_zero_iff, ← count_eq_length, hcount]
      simp only [count_eq_zero_iff.mp hcount, hfindings, Bool.false_eq_true, if_false, List.map_cons,
        List.map_nil, List.sum_cons, List.sum_nil, hnone]
      ring
    · next hcount =>
      have hblocks : (topics f).map (sectionLines f) ≠ [] := by simpa using topics_ne_nil hcount
      have hbetween : (["", "<hr>", ""].map ν).sum = e * 3 := by
        have hrule : ν "<hr>" = e := hplain _ (isPlain_ofList (by decide))
        simp only [List.map_cons, List.map_nil, List.sum_cons, List.sum_nil, hempty, hrule]
        ring
      have hsections := sum_intercalate (ν := ν) ["", "<hr>", ""] hblocks
      rw [hbetween, List.map_map] at hsections
      simp only [Function.comp_def, sum_sectionLines hplain, List.sum_map_add, sum_parts hplain,
        List.map_const', List.sum_replicate_nat] at hsections
      have hsome : Kind.all.any (has f) = true := by
        rw [← Bool.not_eq_false, ← count_eq_zero_iff]
        exact hcount
      rw [hsome, if_pos rfl, ← topics_eq, List.map_append, List.sum_append]
      simp only [List.map_cons, List.map_nil, List.sum_cons, List.sum_nil, hempty,
        hplain _ (isPlain_totals f)]
      linarith
  rw [layout, List.map_append, List.map_append, List.sum_append, List.sum_append,
    sum_openingLines hplain]
  simp only [List.map_cons, List.map_nil, List.sum_cons, List.sum_nil, hempty]
  linarith

end Sums

end ServiceContracts.Report
