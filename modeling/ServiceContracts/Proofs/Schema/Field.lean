import ServiceContracts.Document.Json.Writer
import ServiceContracts.Schema.Field

/-!
# Fields of written objects

What is checked here is the value of a tree.

* `list_value` : a list is checked item by item;
* `required_of_lookup`, `defaulted_of_lookup` : a field is found under the first of its names;
* `model_object`, `tagged_object` : the entries of an object are those of its fields.
-/

namespace ServiceContracts.Schema
open Document Document.Json

variable {α : Type} {check : Part → Checked α} {a : α} {t : Tree}

theorem head_value (t : Tree) : (Part.ofValue t.value).head = t.value := by
  cases t <;> rfl

/-! ## Single parts -/

theorem text_value (s : String) : text (.ofValue (Tree.text s).value) = .ok s := rfl

theorem integer_value (n : Int) : integer (.ofValue (Tree.count n).value) = .ok n := rfl

theorem choice_value {name : α → String} {choices : List α}
    (h : choices.find? (fun b => name b == name a) = some a) :
    choice name choices (.ofValue (Tree.text (name a)).value) = .ok a := by
  have htext : textOf? (.ofValue (Tree.text (name a)).value) = some (name a) := rfl
  rw [choice, htext, Option.bind_some, h]

theorem eachFrom_map {β : Type} {part : β → Part} {check : Part → Checked β} {items : List β}
    (h : ∀ b ∈ items, check (part b) = .ok b) (i : Nat) :
    Checked.eachFrom check i (items.map part) = .ok items := by
  induction items generalizing i with
  | nil => rfl
  | cons b items ih =>
    rw [List.forall_mem_cons] at h
    rw [List.map_cons, Checked.eachFrom, h.1, ih h.2]
    rfl

theorem list_value {tree : α → Tree} (h : ∀ a, check (.ofValue (tree a).value) = .ok a)
    (items : List α) : list check (.ofValue (Tree.list (items.map tree)).value) = .ok items := by
  have hitems : (Part.ofValue (Tree.list (items.map tree)).value).items? =
      some (items.map fun a => .ofValue (tree a).value) := by
    rw [Part.items?, head_value, Tree.value, Tree.values_eq_map, List.map_map]
    exact congrArg some List.map_map
  rw [list, hitems]
  exact eachFrom_map (fun a _ => h a) 0

/-! ## Objects -/

section Objects
variable {fields : List (String × Tree)} {name : String}

/-- The entries of a written object. -/
def entriesOf (fields : List (String × Tree)) : Entries :=
  fields.map fun field => (.text field.1, .ofValue field.2.value)

theorem entries?_object (fields : List (String × Tree)) :
    (Part.ofValue (Tree.object fields).value).entries? = some (entriesOf fields) := by
  rw [Part.entries?, head_value, Tree.value, Tree.entries_eq_map]
  exact congrArg some List.map_map

theorem get?_entriesOf (fields : List (String × Tree)) (name : String) :
    Value.get? (entriesOf fields) name = (fields.lookup name).map fun t => .ofValue t.value := by
  induction fields with
  | nil => rfl
  | cons field fields ih =>
    have hkey : Value.sameKey (.text field.1) (.text name) = (name == field.1) := BEq.comm
    rw [Value.get?] at ih ⊢
    rw [entriesOf, List.map_cons, List.find?_cons, hkey, List.lookup_cons]
    cases name == field.1 with
    | true => rfl
    | false => exact ih

theorem required_of_lookup {names : List String} (hfield : fields.lookup name = some t)
    (hcheck : check (.ofValue t.value) = .ok a) :
    required (entriesOf fields) (name :: names) check = .ok a := by
  rw [required, lookup?, List.findSome?_cons, get?_entriesOf, hfield]
  simp [hcheck, Checked.within]

theorem defaulted_of_lookup {names : List String} {default : α}
    (hfield : fields.lookup name = some t) (hcheck : check (.ofValue t.value) = .ok a) :
    defaulted (entriesOf fields) (name :: names) check default = .ok a := by
  rw [defaulted, lookup?, List.findSome?_cons, get?_entriesOf, hfield]
  simp [hcheck, Checked.within]

theorem model_object (name : String) (check : Entries → Checked α)
    (fields : List (String × Tree)) :
    model name check (.ofValue (Tree.object fields).value) = check (entriesOf fields) := by
  rw [model, entries?_object]

theorem tagged_object {key : String} {cases : List (String × (Entries → Checked α))}
    {check : Entries → Checked α} (htag : fields.lookup key = some (.text name))
    (hcase : cases.lookup name = some check) (hcheck : check (entriesOf fields) = .ok a) :
    tagged key cases (.ofValue (Tree.object fields).value) = .ok a := by
  have htext : textOf? (.ofValue (Tree.text name).value) = some name := rfl
  rw [tagged, entries?_object]
  simp [get?_entriesOf, htag, htext, hcase, hcheck, Checked.within]

end Objects

end ServiceContracts.Schema
