import ServiceContracts.Document.Value

/-!
# Checked values

Checking a document collects every fault, not only the first one. A fault tells its place by the
keys and positions that lead to it.

* `Checked.both` : two checks side by side, with the faults of both;
* `Checked.within` : a check whose faults lie behind a key;
* `Checked.each` : a check of every item of a list.
-/

namespace ServiceContracts.Schema
open Document

/-- What is wrong with a document, and where. -/
structure Fault where
  place : List String
  message : String
deriving DecidableEq, Repr

/-- A fault with its place in front. -/
def Fault.text (f : Fault) : String := ".".intercalate f.place ++ ": " ++ f.message

/-- The first five faults in one line. -/
def summary (faults : List Fault) : String := "; ".intercalate ((faults.take 5).map Fault.text)

/-- A value, or the faults that were found in order. -/
inductive Checked (α : Type) where
  | ok (a : α)
  | faulty (faults : List Fault)
deriving DecidableEq, Repr

namespace Checked

variable {α β : Type}

/-- A single fault at the place that is checked. -/
def fail (message : String) : Checked α := faulty [{ place := [], message }]

/-- The value under a function. -/
def map (f : α → β) : Checked α → Checked β
  | ok a => ok (f a)
  | faulty fs => faulty fs

def both (f : Checked (α → β)) (a : Checked α) : Checked β :=
  match f, a with
  | ok f, ok a => ok (f a)
  | ok _, faulty fs => faulty fs
  | faulty fs, ok _ => faulty fs
  | faulty fs, faulty gs => faulty (fs ++ gs)

instance : Functor Checked := { map := Checked.map }

instance : Applicative Checked := { pure := ok, seq := fun f a => both f (a ()) }

def within (key : String) : Checked α → Checked α
  | ok a => ok a
  | faulty fs => faulty (fs.map fun f => { f with place := key :: f.place })

/-- A check of every item, the first one having the position `i`. -/
def eachFrom (check : Part → Checked α) (i : Nat) : List Part → Checked (List α)
  | [] => ok []
  | v :: vs => (((check v).within (toString i)).map List.cons).both (eachFrom check (i + 1) vs)

def each (check : Part → Checked α) (vs : List Part) : Checked (List α) := eachFrom check 0 vs

/-- The value, or the faults. -/
def toExcept : Checked α → Except (List Fault) α
  | ok a => .ok a
  | faulty fs => .error fs

end Checked

end ServiceContracts.Schema
