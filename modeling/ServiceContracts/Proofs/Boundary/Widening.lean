import ServiceContracts.Proofs.Boundary

/-!
# Wider boundaries

A boundary that lists more draws targets inwards and never pushes one out: what is inside stays
there, with the same path, and what is outside may become listed, or come inside.

* `Within` : a boundary lists all that another one lists;
* `within_merge`, `within_listInternal` : the ways to list more;
* `Moves`, `Within.moves` : where a target may lie under the wider boundary;
* `Moves.inside`, `Moves.unclassified`, `Moves.outside`, `Moves.unlisted` : what that means for each
  side;
* `normalize_listInternal_of_ne`, `normalize_listExternal_of_ne` : listing a variable concerns the
  targets that are based on it, and no other ones.
-/

namespace ServiceContracts.Boundary

/-- Whatever the first boundary takes for internal or lists as external, the second one does. -/
structure Within (b b' : Boundary) : Prop where
  hosts : ∀ host, b.isInternalHost host = true → b'.isInternalHost host = true
  internal : ∀ name ∈ b.internalVariables, name ∈ b'.internalVariables
  external : ∀ name ∈ b.externalVariables, name ∈ b'.externalVariables

/-- The boundary with one more internal variable. -/
def listInternal (b : Boundary) (name : String) : Boundary :=
  { b with internalVariables := b.internalVariables ++ [name] }

/-- The boundary with one more external variable. -/
def listExternal (b : Boundary) (name : String) : Boundary :=
  { b with externalVariables := b.externalVariables ++ [name] }

/-! ## Listing more -/

section Listing
variable {b c : Boundary} {name : String}

theorem mem_hosts {host : List Char} : host ∈ b.hosts ↔
    ∃ domain ∈ b.internalDomains, Text.isBlankText domain = false ∧
      Host.bareChars domain.toList = host := by
  simp [hosts, and_assoc]

theorem isInternalHost_mono {b' : Boundary} (h : ∀ host ∈ b.hosts, host ∈ b'.hosts)
    (host : List Char) (hinternal : b.isInternalHost host = true) :
    b'.isInternalHost host = true := by
  rw [isInternalHost, Bool.and_eq_true, List.any_eq_true] at hinternal ⊢
  obtain ⟨hne, domain, hdomain, hrelated⟩ := hinternal
  exact ⟨hne, domain, h domain hdomain, hrelated⟩

theorem within_merge (b c : Boundary) : Within b (b.merge c) where
  hosts := by
    apply isInternalHost_mono
    intro host hhost
    obtain ⟨domain, hdomain, hrest⟩ := mem_hosts.mp hhost
    exact mem_hosts.mpr ⟨domain, mem_distinct.mpr (List.mem_append_left _ hdomain), hrest⟩
  internal _ h := mem_distinct.mpr (List.mem_append_left _ h)
  external _ h := mem_distinct.mpr (List.mem_append_left _ h)

theorem within_listInternal (b : Boundary) (name : String) : Within b (b.listInternal name) where
  hosts _ h := h
  internal _ h := List.mem_append_left _ h
  external _ h := h

end Listing

/-! ## Where targets move -/

/-- Where a target lies under two boundaries, the second one being wider. -/
inductive Moves (n m : Normalized) : Prop where
  | stays (standing : m.standing = n.standing) (path : m.path? = n.path?)
      (unlisted : m.unlisted? = n.unlisted?)
  /-- Its variable is mentioned now. -/
  | listed (before : n.standing = .unlisted) (after : m.standing = .external)
      (path : m.path? = n.path?)
  /-- It comes inside; a base alone is then the root. -/
  | enters (before : n.isExternal = true) (after : m.standing = .internal)
      (path : m.path? = some (n.path?.getD "/"))

section Moves
variable {n m : Normalized}

theorem Moves.inside (h : Moves n m) (hn : n.isInternal = true) :
    m.isInternal = true ∧ m.path? = n.path? := by
  rw [Normalized.isInternal, decide_eq_true_iff] at hn ⊢
  cases h with
  | stays hstanding hpath => exact ⟨hstanding.trans hn, hpath⟩
  | listed hbefore =>
    rw [hn] at hbefore
    cases hbefore
  | enters hbefore =>
    rw [Normalized.isExternal, hn] at hbefore
    cases hbefore

theorem Moves.unclassified (h : Moves n m) (hn : n.standing = .unclassified) :
    m.standing = .unclassified ∧ m.path? = n.path? := by
  cases h with
  | stays hstanding hpath => exact ⟨hstanding.trans hn, hpath⟩
  | listed hbefore =>
    rw [hn] at hbefore
    cases hbefore
  | enters hbefore =>
    rw [Normalized.isExternal, hn] at hbefore
    cases hbefore

theorem Moves.outside (h : Moves n m) (hn : n.isExternal = true) :
    m.isExternal = true ∧ m.path? = n.path? ∨
      m.isInternal = true ∧ m.path? = some (n.path?.getD "/") := by
  cases h with
  | stays hstanding hpath =>
    have hexternal : m.isExternal = n.isExternal := by simp only [Normalized.isExternal, hstanding]
    exact .inl ⟨hexternal.trans hn, hpath⟩
  | listed _ hafter hpath => exact .inl ⟨by simp [Normalized.isExternal, hafter], hpath⟩
  | enters _ hafter hpath => exact .inr ⟨by simp [Normalized.isInternal, hafter], hpath⟩

/-- No variable becomes one that is not mentioned. -/
theorem Moves.unlisted (h : Moves n m) : m.unlisted? = n.unlisted? ∨ m.unlisted? = none := by
  cases h with
  | stays _ _ hunlisted => exact .inl hunlisted
  | listed _ hafter => exact .inr (by simp [Normalized.unlisted?, hafter])
  | enters _ hafter => exact .inr (by simp [Normalized.unlisted?, hafter])

end Moves

section Targets
variable {b b' : Boundary} {raw : String} {target : CallTarget}

/-- A target inside stays there, and one outside may become listed or come inside. -/
theorem Within.standing_cases (h : Within b b') (target : CallTarget) :
    b'.standing target = b.standing target ∨
    (b.standing target = .unlisted ∧ b'.standing target = .external) ∨
    ((b.standing target = .external ∨ b.standing target = .unlisted) ∧
      b'.standing target = .internal) := by
  cases target with
  | unknown path => exact .inl rfl
  | relative path => exact .inl rfl
  | absolute host path =>
    have hhost := h.hosts host.toList
    simp only [standing]
    grind
  | envBased name spelling path =>
    have hinternal := h.internal name
    have hexternal := h.external name
    simp only [standing]
    grind

/-- Outside, it makes no difference for the path whether the base is mentioned. -/
theorem path?_of_outside {n : Normalized} {after : Standing} (hbefore : n.standing ≠ .internal)
    (hafter : after ≠ .internal) : ({ n with standing := after } : Normalized).path? = n.path? := by
  obtain ⟨raw, target, before⟩ := n
  cases target with
  | unknown path => rfl
  | relative path => rfl
  | absolute host path => rfl
  | envBased name spelling path =>
    simp only [Normalized.path?]
    rw [if_neg hbefore, if_neg hafter]

theorem path?_of_enters {n : Normalized} (hbefore : n.standing ≠ .internal)
    (hknown : ∀ path, n.target ≠ .unknown path) :
    ({ n with standing := .internal } : Normalized).path? = some (n.path?.getD "/") := by
  obtain ⟨raw, target, before⟩ := n
  cases target with
  | unknown path => exact absurd rfl (hknown path)
  | relative path => rfl
  | absolute host path => rfl
  | envBased name spelling path =>
    simp only [Normalized.path?]
    rw [if_neg hbefore, if_pos trivial]

theorem Within.moves (h : Within b b') (raw : String) :
    Moves (b.normalize raw) (b'.normalize raw) := by
  unfold normalize
  generalize CallTarget.read raw = target
  let n : Normalized := { raw, target, standing := b.standing target }
  obtain heq | ⟨hbefore, hafter⟩ | ⟨hbefore, hafter⟩ := h.standing_cases target
  · rw [heq]
    exact .stays rfl rfl rfl
  · have hpath : ({ n with standing := .external } : Normalized).path? = n.path? :=
      path?_of_outside (by simp [n, hbefore]) (by simp)
    rw [hafter]
    exact .listed hbefore rfl hpath
  · have hknown : ∀ path, n.target ≠ .unknown path := by
      rintro path rfl
      cases hafter
    have hout : n.standing ≠ .internal := by
      rcases hbefore with hbefore | hbefore <;> simp [n, hbefore]
    rw [hafter]
    exact .enters (by simpa [Normalized.isExternal] using hbefore) rfl (path?_of_enters hout hknown)

/-- Where a variable is listed concerns the targets based on it only. -/
theorem normalize_eq_of_ne {name : String} (hhosts : b'.internalDomains = b.internalDomains)
    (hinternal : ∀ other, other ≠ name →
      (other ∈ b'.internalVariables ↔ other ∈ b.internalVariables))
    (hexternal : ∀ other, other ≠ name →
      (other ∈ b'.externalVariables ↔ other ∈ b.externalVariables))
    (h : (b.normalize raw).envVar? ≠ some name) : b'.normalize raw = b.normalize raw := by
  have hstanding : b'.standing (CallTarget.read raw) = b.standing (CallTarget.read raw) := by
    unfold normalize at h
    generalize CallTarget.read raw = target at h ⊢
    cases target with
    | unknown path => rfl
    | relative path => rfl
    | absolute host path =>
      have hinside : b'.isInternalHost host.toList = b.isInternalHost host.toList := by
        simp only [isInternalHost, hosts, hhosts]
      simp only [standing, hinside]
    | envBased other spelling path =>
      have hne : other ≠ name := fun heq => h (congrArg some heq)
      simp only [standing, hinternal other hne, hexternal other hne]
  rw [normalize, normalize, hstanding]

theorem normalize_listInternal_of_ne {name : String} (h : (b.normalize raw).envVar? ≠ some name) :
    (b.listInternal name).normalize raw = b.normalize raw :=
  normalize_eq_of_ne rfl (fun other hne => by simp [listInternal, hne]) (fun _ _ => Iff.rfl) h

theorem normalize_listExternal_of_ne {name : String} (h : (b.normalize raw).envVar? ≠ some name) :
    (b.listExternal name).normalize raw = b.normalize raw :=
  normalize_eq_of_ne rfl (fun _ _ => Iff.rfl) (fun other hne => by simp [listExternal, hne]) h

theorem unlisted?_eq_some_iff {name : String} : (b.normalize raw).unlisted? = some name ↔
    (b.normalize raw).envVar? = some name ∧ name ∉ b.internalVariables ∧
      name ∉ b.externalVariables := by
  unfold normalize
  generalize CallTarget.read raw = target
  cases target with
  | unknown path => simp [Normalized.unlisted?, Normalized.envVar?, standing]
  | relative path => simp [Normalized.unlisted?, Normalized.envVar?, standing]
  | absolute host path =>
    simp only [Normalized.unlisted?, Normalized.envVar?, standing]
    grind
  | envBased other spelling path =>
    simp only [Normalized.unlisted?, Normalized.envVar?, standing]
    grind

/-- Listing a variable as external concerns the targets for which nothing was known about it. -/
theorem normalize_listExternal (b : Boundary) (name raw : String) :
    (b.listExternal name).normalize raw =
      if (b.normalize raw).unlisted? = some name then
        { b.normalize raw with standing := .external }
      else b.normalize raw := by
  by_cases hname : (b.normalize raw).envVar? = some name
  · simp only [unlisted?_eq_some_iff, hname, true_and]
    unfold normalize at hname ⊢
    generalize CallTarget.read raw = target at hname ⊢
    cases target with
    | unknown path => cases hname
    | relative path => cases hname
    | absolute host path => cases hname
    | envBased other spelling path =>
      obtain rfl : other = name := Option.some.inj hname
      simp only [standing, listExternal]
      grind
  · have hunlisted : (b.normalize raw).unlisted? ≠ some name :=
      fun h => hname (unlisted?_eq_some_iff.mp h).1
    rw [normalize_listExternal_of_ne hname, if_neg hunlisted]

end Targets

end ServiceContracts.Boundary
