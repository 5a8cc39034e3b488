import ServiceContracts.Proofs.Matching.Widening

/-!
# Acting on a suggestion

A call whose base is a variable that the boundary does not mention raises a suggestion. Listing the
variable as external takes these suggestions away and changes nothing else; listing it as internal
has the calls matched, and leaves all other calls as they are.

* `Issue.suggests`, `Issue.isBasedOn` : issues that name a variable, or are about a call based on
  it;
* `suggests_of_raised` : a variable is suggested by the calls based on it, if it is not mentioned;
* `decision_listExternal`, `issues_run_listExternal` : the variable listed as external;
* `decision_listInternal`, `callIssues_listInternal` : the variable listed as internal.
-/

namespace ServiceContracts

section
variable {α β : Type} {f : α → β} {p : β → Bool}

theorem filter_map_eq_self (h : ∀ a, p (f a) = true) (as : List α) :
    (as.map f).filter p = as.map f := by
  have hall : as.filter (p ∘ f) = as := List.filter_eq_self.mpr fun a _ => h a
  rw [List.filter_map, hall]

theorem filter_map_eq_nil (h : ∀ a, p (f a) = false) (as : List α) : (as.map f).filter p = [] := by
  have hnone : as.filter (p ∘ f) = [] := List.filter_eq_nil_iff.mpr fun a _ => by simp [h a]
  rw [List.filter_map, hnone, List.map_nil]

end

/-- The issue suggests to list the variable. -/
def Issue.suggests (name : String) : Issue → Bool
  | suggestion s => s.envVar == name
  | _ => false

/-- The issue is about a call whose base is the variable. -/
def Issue.isBasedOn (b : Boundary) (name : String) (issue : Issue) : Bool :=
  issue.call?.any fun key => (b.normalize key.2.1).envVar? == some name

end ServiceContracts

namespace ServiceContracts.Matching
open Boundary Mount

variable {b b' : Boundary} {table : List Place} {rows : List Row} {calls : List CallFact}
  {c : CallFact} {name : String}

/-- A call is decided by what its target is to the boundary. -/
theorem decision_congr (h : b'.normalize c.url = b.normalize c.url) :
    decision b' table c = decision b table c := by
  simp only [decision, h]

theorem suggests_of_raised {issue : Issue} (h : decision b table c = .raised issue)
    (hsuggests : issue.suggests name = true) : (b.normalize c.url).unlisted? = some name := by
  have hreason := decides_decision b table c
  rw [h] at hreason
  cases hreason with
  | unplaced => simp [unplaced, Issue.suggests] at hsuggests
  | suggested _ hname =>
    have henv := beq_iff_eq.mp (show (_ == name) = true from hsuggests)
    rw [hname, henv]
  | mismatched => simp [Issue.suggests] at hsuggests
  | missing => simp [Issue.suggests] at hsuggests

/-! ## Listed as external -/

/-- The decision without the suggestion of a variable. -/
def Decision.without (name : String) : Decision → Decision
  | raised issue => if issue.suggests name then ignored else raised issue
  | made => made

theorem issue?_without (made : Decision) :
    (made.without name).issue? = made.issue?.filter fun issue => !issue.suggests name := by
  cases made with
  | served place => rfl
  | ignored => rfl
  | raised issue =>
    rw [Decision.without]
    split <;> simp_all [Decision.issue?, Option.filter]

theorem without_eq_served_iff {made : Decision} {i : Nat} :
    made.without name = .served i ↔ made = .served i := by
  cases made with
  | served place => rfl
  | ignored => rfl
  | raised issue =>
    rw [Decision.without]
    split <;> simp

theorem without_decision_of_ne (h : (b.normalize c.url).unlisted? ≠ some name) :
    (decision b table c).without name = decision b table c := by
  cases hmade : decision b table c with
  | served place => rfl
  | ignored => rfl
  | raised issue =>
    have hsuggests : issue.suggests name ≠ true := fun hs => h (suggests_of_raised hmade hs)
    rw [Decision.without, if_neg hsuggests]

/-- Listing a variable as external takes its suggestions away. -/
theorem decision_listExternal (b : Boundary) (table : List Place) (c : CallFact) (name : String) :
    decision (b.listExternal name) table c = (decision b table c).without name := by
  have hnormalize := normalize_listExternal b name c.url
  by_cases hunlisted : (b.normalize c.url).unlisted? = some name
  · rw [if_pos hunlisted] at hnormalize
    have hstanding := exists_unlisted?_iff.mp ⟨name, hunlisted⟩
    have hname := (unlisted?_eq_some_iff.mp hunlisted).1
    simp only [decision, hnormalize, hstanding, hname]
    split
    · rfl
    · split
      · rfl
      · simp [Decision.without, Issue.suggests]
  · rw [if_neg hunlisted] at hnormalize
    rw [decision_congr hnormalize, without_decision_of_ne hunlisted]

theorem rows_run_listExternal (b : Boundary) (rows : List Row) (calls : List CallFact)
    (name : String) : (run (b.listExternal name) rows calls).rows = (run b rows calls).rows := by
  have hserved : ∀ i,
      ((distinctCalls calls).map (decision (b.listExternal name) (fresh rows))).contains
        (.served i) = ((distinctCalls calls).map (decision b (fresh rows))).contains (.served i) := by
    intro i
    rw [Bool.eq_iff_iff, List.contains_iff_mem, List.contains_iff_mem, List.mem_map, List.mem_map]
    simp only [decision_listExternal, without_eq_served_iff]
  apply List.ext_getElem?
  intro i
  rw [getElem?_rows_run, getElem?_rows_run, hserved]

/-- Nothing but the suggestions of the variable is gone. -/
theorem issues_run_listExternal (b : Boundary) (rows : List Row) (calls : List CallFact)
    (name : String) : (run (b.listExternal name) rows calls).issues =
      (run b rows calls).issues.filter fun issue => !issue.suggests name := by
  have hcalls : (run (b.listExternal name) rows calls).callIssues =
      (run b rows calls).callIssues.filter fun issue => !issue.suggests name := by
    rw [callIssues_run, callIssues_run, List.filter_filterMap]
    simp only [decision_listExternal, issue?_without]
  have horphans : ∀ unused : List Row,
      (unused.map orphan).filter (fun issue => !issue.suggests name) = unused.map orphan :=
    filter_map_eq_self fun _ => rfl
  rw [issues_run, issues_run, hcalls, rows_run_listExternal, List.filter_append, horphans]

/-! ## Listed as internal -/

theorem decision_listInternal (h : (b.normalize c.url).envVar? ≠ some name) :
    decision (b.listInternal name) table c = decision b table c :=
  decision_congr (normalize_listInternal_of_ne h)

theorem not_suggests_listInternal {issue : Issue}
    (h : issue ∈ (run (b.listInternal name) rows calls).issues) : issue.suggests name = false := by
  rw [issues_run, callIssues_run] at h
  rcases List.mem_append.mp h with hcall | horphan
  · obtain ⟨c, -, hc⟩ := List.mem_filterMap.mp hcall
    by_contra hsuggests
    have hunlisted := suggests_of_raised (issue?_eq_some_iff.mp hc) (by simpa using hsuggests)
    exact (unlisted?_eq_some_iff.mp hunlisted).2.1 (by simp [listInternal])
  · obtain ⟨r, -, rfl⟩ := List.mem_map.mp horphan
    rfl

/-- The issues about calls that are not based on the variable are the same. -/
theorem callIssues_listInternal (b : Boundary) (rows : List Row) (calls : List CallFact)
    (name : String) :
    (run (b.listInternal name) rows calls).callIssues.filter (fun i => !i.isBasedOn b name) =
      (run b rows calls).callIssues.filter fun i => !i.isBasedOn b name := by
  rw [callIssues_run, callIssues_run, List.filter_filterMap, List.filter_filterMap]
  apply List.filterMap_congr
  intro c _
  by_cases hbased : (b.normalize c.url).envVar? = some name
  · have hnone : ∀ b', (decision b' (fresh rows) c).issue?.filter
        (fun i => !i.isBasedOn b name) = none := by
      intro b'
      rw [Option.filter_eq_none_iff]
      intro issue hissue
      obtain ⟨method, hcall, -⟩ := callKey_of_raised (issue?_eq_some_iff.mp hissue)
      simp [Issue.isBasedOn, hcall, hbased]
    rw [hnone, hnone]
  · rw [decision_listInternal hbased]

end ServiceContracts.Matching
