import ServiceContracts.Proofs.Interpolation.Expand
import ServiceContracts.Proofs.Path.Segments

/-!
# The canonical path of a template

A template path is a list of segments behind slashes, each a plain text or one interpolation, and
perhaps a query behind them. Cleaning keeps the segments: it only expands them one by one.

* `IsPlain`, `IsTemplate` : the segments of a template;
* `IsQuery` : what may follow the path, trimmed and expanded or not;
* `expand_slashed_append` : expanding keeps the slashes;
* `segments_cleanChars` : the segments of the canonical path.
-/

namespace ServiceContracts.Path
open Text Interpolation

/-! ## Segments of a template -/

/-- The characters at which cleaning cuts a path, and the one that protects a `?`. -/
def marks : List Char := ['/', '?', '#', '\\']

/-- A character that stands for itself: no mark, no dollar sign and no blank. -/
def isPlainChar (c : Char) : Bool := !('$' :: marks).contains c && !isBlank c

/-- A text that stands for itself. -/
structure IsPlain (t : List Char) : Prop where
  ne_nil : t ≠ []
  chars : ∀ c ∈ t, isPlainChar c = true

/-- A plain text, or one interpolation of any text. -/
def IsTemplate (t : List Char) : Prop :=
  IsPlain t ∨ ∃ inner, '}' ∉ inner ∧ t = spelling inner

section Template
variable {t : List Char}

theorem IsPlain.not_mem (h : IsPlain t) : ∀ c ∈ '$' :: marks, c ∉ t := by
  intro c hc hmem
  have := h.chars c hmem
  rw [isPlainChar, List.contains_iff_mem.mpr hc] at this
  cases this

theorem IsPlain.not_blank (h : IsPlain t) : ∀ c ∈ t, isBlank c = false := by
  intro c hc
  have := h.chars c hc
  rw [isPlainChar, Bool.and_eq_true, Bool.not_eq_true'] at this
  exact (Bool.not_eq_true' _).mp this.2

theorem IsPlain.expand (h : IsPlain t) : expand t = t :=
  expand_of_not_mem (h.not_mem '$' List.mem_cons_self)

theorem IsTemplate.isPiece (h : IsTemplate t) : IsPiece t := by
  rcases h with h | h
  · exact .inl (h.not_mem '$' List.mem_cons_self)
  · exact .inr h

theorem getLast?_spelling (inner : List Char) : (spelling inner).getLast? = some '}' := by
  rw [spelling, List.getLast?_append]
  rfl

/-- A segment starts with something else than a slash. -/
theorem IsTemplate.exists_cons (h : IsTemplate t) : ∃ c cs, t = c :: cs ∧ c ≠ '/' := by
  rcases h with h | ⟨inner, -, rfl⟩
  · obtain ⟨c, cs, rfl⟩ := List.exists_cons_of_ne_nil h.ne_nil
    refine ⟨c, cs, rfl, ?_⟩
    rintro rfl
    exact h.not_mem '/' (by decide) List.mem_cons_self
  · exact ⟨'$', _, rfl, by decide⟩

theorem IsTemplate.ne_nil (h : IsTemplate t) : t ≠ [] := by
  obtain ⟨c, cs, rfl, -⟩ := h.exists_cons
  exact List.cons_ne_nil c cs

theorem IsTemplate.not_blank_getLast? (h : IsTemplate t) :
    ∀ c ∈ t.getLast?, isBlank c = false := by
  intro c hc
  rcases h with h | ⟨inner, -, rfl⟩
  · exact h.not_blank c (List.mem_of_mem_getLast? hc)
  · rw [getLast?_spelling] at hc
    cases hc
    decide

theorem IsTemplate.expand_ne_nil (h : IsTemplate t) : expand t ≠ [] := by
  rcases h with h | ⟨inner, hinner, rfl⟩
  · rw [h.expand]
    exact h.ne_nil
  · rw [expand_spelling hinner]
    exact parameter_ne_nil inner

/-- Whatever the braces of a template enclose, its expansion is one segment. -/
theorem IsTemplate.not_mem_expand (h : IsTemplate t) : ∀ c ∈ marks, c ∉ expand t := by
  intro c hc
  rcases h with h | ⟨inner, hinner, rfl⟩
  · rw [h.expand]
    exact h.not_mem c (List.mem_cons_of_mem _ hc)
  · have hkept : marks.all (fun d => decide (0 < d.toNat ∧ isLowerCode d.toNat = false ∧
        isWord d = false ∧ d ≠ '$' ∧ d ≠ '.' ∧ d ≠ ':')) = true := by decide
    obtain ⟨hpos, hcode, hword, hdollar, hdot, hcolon⟩ :=
      of_decide_eq_true (List.all_eq_true.mp hkept c hc)
    rw [expand_spelling hinner]
    exact not_mem_parameter inner hpos hcode hword hdollar hdot hcolon

end Template

/-! ## Paths of templates -/

section Slashed
variable {segs : List (List Char)}

theorem mem_slashed {c : Char} (h : c ∈ slashed segs) : c = '/' ∨ ∃ s ∈ segs, c ∈ s := by
  induction segs with
  | nil => exact .inl (List.mem_singleton.mp h)
  | cons s segs ih =>
    cases segs with
    | nil =>
      rw [slashed_singleton, List.mem_cons] at h
      exact h.imp_right fun h => ⟨s, List.mem_cons_self, h⟩
    | cons t segs =>
      rw [slashed_cons_cons, List.cons_append, List.mem_cons, List.mem_append] at h
      rcases h with h | h | h
      · exact .inl h
      · exact .inr ⟨s, List.mem_cons_self, h⟩
      · exact (ih h).imp_right fun ⟨u, hu, hc⟩ => ⟨u, List.mem_cons_of_mem s hu, hc⟩

theorem getLast?_slashed {p : Char → Bool} (hslash : p '/' = false)
    (h : ∀ s ∈ segs, s ≠ [] ∧ ∀ c ∈ s.getLast?, p c = false) :
    ∀ c ∈ (slashed segs).getLast?, p c = false := by
  induction segs with
  | nil =>
    intro c hc
    cases hc
    exact hslash
  | cons s segs ih =>
    obtain ⟨⟨hne, hlast⟩, hsegs⟩ := List.forall_mem_cons.mp h
    cases segs with
    | nil =>
      obtain ⟨c, cs, rfl⟩ := List.exists_cons_of_ne_nil hne
      rw [slashed_singleton, List.getLast?_cons_cons]
      exact hlast
    | cons t segs =>
      have hne : slashed (t :: segs) ≠ [] := List.cons_ne_nil _ _
      rw [slashed_cons_cons, List.getLast?_append_of_ne_nil _ hne]
      exact ih hsegs

/-- Expanding keeps the slashes. -/
theorem expand_slashed_append (h : ∀ s ∈ segs, IsPiece s) (rest : List Char) :
    expand (slashed segs ++ rest) = slashed (segs.map expand) ++ expand rest := by
  have hdollar : '$' ∉ ['/'] := by decide
  have hslash : ∀ cs, expand ('/' :: cs) = '/' :: expand cs := expand_append_of_not_mem hdollar
  induction segs with
  | nil => exact hslash rest
  | cons s segs ih =>
    obtain ⟨hs, hsegs⟩ := List.forall_mem_cons.mp h
    cases segs with
    | nil =>
      rw [List.map_singleton, slashed_singleton, slashed_singleton, List.cons_append, hslash,
        hs.expand_append, List.cons_append]
    | cons t segs =>
      have htail := ih hsegs
      rw [List.map_cons] at htail
      rw [List.map_cons, List.map_cons, slashed_cons_cons, slashed_cons_cons, List.append_assoc,
        List.cons_append, hslash, hs.expand_append, htail, List.cons_append, List.cons_append,
        List.append_assoc]

end Slashed

/-! ## Queries -/

/-- Nothing, or a query or a fragment with the mark in front of it. -/
def IsQuery (q : List Char) : Prop := ∀ c ∈ q.head?, c = '?' ∨ c = '#'

section Query
variable {front q : List Char}

theorem IsQuery.cases (h : IsQuery q) :
    q = [] ∨ ∃ c rest, q = c :: rest ∧ (c = '?' ∨ c = '#') := by
  cases q with
  | nil => exact .inl rfl
  | cons c rest => exact .inr ⟨c, rest, rfl, h c rfl⟩

theorem IsQuery.dropEndWhile_isBlank (h : IsQuery q) : IsQuery (dropEndWhile isBlank q) := by
  obtain rfl | ⟨c, rest, rfl, hc⟩ := h.cases
  · exact h
  · have hkept : ∀ d ∈ [c].getLast?, isBlank d = false := by
      intro d hd
      cases hd
      rcases hc with rfl | rfl <;> decide
    rw [← List.singleton_append, dropEndWhile_append hkept]
    exact h

theorem IsQuery.expand (h : IsQuery q) : IsQuery (expand q) := by
  obtain rfl | ⟨c, rest, rfl, hc⟩ := h.cases
  · exact h
  · have hdollar : '$' ∉ [c] := by
      rcases hc with rfl | rfl <;> decide
    rw [← List.singleton_append, expand_append_of_not_mem hdollar]
    exact h

theorem beforeQuery_append (hquery : '?' ∉ front) (hescape : '\\' ∉ front) (back : List Char) :
    beforeQuery (front ++ back) = front ++ beforeQuery back := by
  induction front with
  | nil => rfl
  | cons c front ih =>
    obtain ⟨hc, hquery⟩ := List.ne_and_not_mem_of_not_mem_cons hquery
    obtain ⟨hd, hescape⟩ := List.ne_and_not_mem_of_not_mem_cons hescape
    rw [List.cons_append, beforeQuery, beforeQueryFrom, if_neg (by simp [Ne.symm hc]),
      beq_eq_false_iff_ne.mpr (Ne.symm hd)]
    exact congrArg (c :: ·) (ih hquery hescape)

/-- A path without marks ends where its query starts. -/
theorem before_beforeQuery_append (hquery : '?' ∉ front) (hescape : '\\' ∉ front)
    (hfragment : '#' ∉ front) (h : IsQuery q) : before '#' (beforeQuery (front ++ q)) = front := by
  have hnil : before '#' (beforeQuery q) = [] := by
    obtain rfl | ⟨c, rest, rfl, rfl | rfl⟩ := h.cases
    · rfl
    · rfl
    · rfl
  have hfront : ∀ c ∈ front, (c != '#') = true := by
    intro c hc
    exact bne_iff_ne.mpr (ne_of_mem_of_not_mem hc hfragment)
  rw [beforeQuery_append hquery hescape, before, List.takeWhile_append_of_pos hfront]
  show front ++ before '#' (beforeQuery q) = front
  rw [hnil, List.append_nil]

end Query

/-! ## Cleaning -/

/-- Cleaning the path of a template expands its segments one by one, and drops the query. -/
theorem segments_cleanChars {segs : List (List Char)} {q : List Char}
    (hsegs : ∀ s ∈ segs, IsTemplate s) (hq : IsQuery q) :
    segments (cleanChars (slashed segs ++ q)) = segs.map expand := by
  have hfirst : ∃ c ∈ (slashed segs).head?, isBlank c = false := ⟨'/', rfl, by decide⟩
  have hlast := getLast?_slashed (p := isBlank) (by decide) fun s hs =>
    ⟨(hsegs s hs).ne_nil, (hsegs s hs).not_blank_getLast?⟩
  have hmarks : ∀ s ∈ segs.map expand, ∀ c ∈ marks, c ∉ s :=
    List.forall_mem_map.mpr fun s hs => (hsegs s hs).not_mem_expand
  have hfree : ∀ c ∈ marks, c ≠ '/' → c ∉ slashed (segs.map expand) := by
    intro c hc hne hmem
    rcases mem_slashed hmem with rfl | ⟨s, hs, hcs⟩
    · exact hne rfl
    · exact hmarks s hs c hc hcs
  rw [cleanChars, trimChars_append hfirst hlast,
    expand_slashed_append fun s hs => (hsegs s hs).isPiece,
    before_beforeQuery_append (hfree _ (by decide) (by decide)) (hfree _ (by decide) (by decide))
      (hfree _ (by decide) (by decide)) hq.dropEndWhile_isBlank.expand,
    segments_tidy, segments_rooted]
  apply segments_slashed
  exact List.forall_mem_map.mpr fun s hs =>
    ⟨(hsegs s hs).expand_ne_nil, (hsegs s hs).not_mem_expand '/' List.mem_cons_self⟩

end ServiceContracts.Path
