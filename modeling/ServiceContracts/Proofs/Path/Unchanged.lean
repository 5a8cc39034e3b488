import ServiceContracts.Proofs.Path.Canonical

/-!
# Paths that cleaning leaves alone

That a path is canonical and settled, told by its text: by the marks that do not occur in it, and by
what stands in front of those that may occur.

* `isSingle_iff`, `isEscaped_iff`, `holdsInterpolation_iff` : the marks;
* `isCanonical_iff` : a canonical path told by its marks;
* `clean_eq_self_iff` : the paths that are equal to what they are cleaned to.
-/

namespace ServiceContracts.Path
open Text Interpolation

section Marks
variable {path : List Char}

theorem isSingle_iff : IsSingle path ↔ ¬ ['/', '/'] <:+: path := by
  rw [IsSingle, List.isChain_iff_forall_rel_of_append_cons_cons]
  constructor
  · rintro h ⟨front, back, rfl⟩
    exact @h '/' '/' front back (by simp) rfl rfl
  · rintro h c d front back rfl rfl rfl
    exact h ⟨front, back, by simp⟩

/-- A rooted path does not start with a query mark, so that each has a character in front. -/
theorem isEscaped_iff (hroot : path.head? = some '/') : IsEscaped path ↔
    ∀ front back, path = front ++ '?' :: back → front.getLast? = some '\\' := by
  rw [IsEscaped, List.isChain_iff_forall_rel_of_append_cons_cons]
  constructor
  · rintro h front back rfl
    cases front using List.reverseRecOn with
    | nil => cases hroot
    | append_singleton front c =>
      rw [List.getLast?_concat, @h c '?' front back (by simp) rfl]
  · rintro h c d front back rfl rfl
    have hlast := h (front ++ [c]) back (by simp)
    rwa [List.getLast?_concat, Option.some_inj] at hlast

/-- An interpolation ends at the first brace behind its start. -/
theorem holdsInterpolation_iff : HoldsInterpolation path ↔
    ∃ front inner back, '}' ∉ inner ∧ path = front ++ (spelling inner ++ back) := by
  constructor
  · intro h
    obtain ⟨inner, hinner⟩ := exists_of_holds h
    obtain ⟨front, back, hbrace, hpath, -⟩ := exists_of_first? hinner
    exact ⟨front, inner, back, hbrace, hpath⟩
  · rintro ⟨front, inner, back, -, hpath⟩
    exact ⟨front, inner, back, hpath⟩

end Marks

/-- A canonical path, told by the marks that it may hold and where. -/
theorem isCanonical_iff (path : String) : IsCanonical path.toList ↔
    path.toList.head? = some '/' ∧
    ¬ ['/', '/'] <:+: path.toList ∧
    (path.toList.getLast? = some '/' → path = "/") ∧
    '#' ∉ path.toList ∧
    ∀ front back, path.toList = front ++ '?' :: back → front.getLast? = some '\\' := by
  have hslash : path = "/" ↔ path.toList = ['/'] := by
    rw [← String.toList_inj]
    rfl
  rw [← isSingle_iff, hslash]
  constructor
  · rintro ⟨hroot, hsingle, hended, hfragment, hquery⟩
    exact ⟨hroot, hsingle, hended, hfragment, (isEscaped_iff hroot).mp hquery⟩
  · rintro ⟨hroot, hsingle, hended, hfragment, hquery⟩
    exact ⟨hroot, hsingle, hended, hfragment, (isEscaped_iff hroot).mpr hquery⟩

/-- The steps of cleaning do not cancel out: what any of them would change is changed in the end. -/
theorem clean_eq_self_iff (path : String) : clean path = path ↔
    path.toList.head? = some '/' ∧
    ¬ ['/', '/'] <:+: path.toList ∧
    (path.toList.getLast? = some '/' → path = "/") ∧
    '#' ∉ path.toList ∧
    (∀ front back, path.toList = front ++ '?' :: back → front.getLast? = some '\\') ∧
    (¬ ∃ front inner back, '}' ∉ inner ∧ path.toList = front ++ (spelling inner ++ back)) ∧
    ∀ c ∈ path.toList.getLast?, isBlank c = false := by
  have hclean : clean path = path ↔ cleanChars path.toList = path.toList := by
    rw [clean, ← String.toList_inj, String.toList_ofList]
  have hslash : path = "/" ↔ path.toList = ['/'] := by
    rw [← String.toList_inj]
    rfl
  rw [hclean, cleanChars_eq_self_iff, hslash, ← isSingle_iff, ← holdsInterpolation_iff]
  constructor
  · rintro ⟨⟨hroot, hsingle, hended, hfragment, hquery⟩, htrimmed, hexpanded⟩
    exact ⟨hroot, hsingle, hended, hfragment, (isEscaped_iff hroot).mp hquery, hexpanded, htrimmed⟩
  · rintro ⟨hroot, hsingle, hended, hfragment, hquery, hexpanded, htrimmed⟩
    exact ⟨⟨hroot, hsingle, hended, hfragment, (isEscaped_iff hroot).mpr hquery⟩,
      htrimmed, hexpanded⟩

end ServiceContracts.Path
