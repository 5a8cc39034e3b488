import ServiceContracts.Document.Value

/-!
# The order of sets

A set lists its items in the order of a table whose size is a power of two. A number has a residue
modulo the prime `2 ^ 61 - 1`, and its first slot is the residue modulo the size of the table. When
that slot is taken, the slots behind it are tried as far as a whole run of them fits into the table,
and then other slots that depend on ever higher digits of the residue. Items other than numbers have
no residue; a set with one of them keeps the order in which its items were put in.

* `residue?` : the residue of a number;
* `tableSize` : the number of slots for some items;
* `freeSlot` : where an item comes to stand;
* `listed` : the items of a set in order.
-/

namespace ServiceContracts.Document.SetOrder
open Number

/-- The modulus of residues. -/
def modulus : Nat := Nat.pow 2 61 - 1

/-- A magnitude with its sign as a residue; there is no residue `-1`. -/
def signedResidue (negative : Bool) (magnitude : Nat) : Int :=
  let r : Int := if negative then -(magnitude % modulus : Nat) else (magnitude % modulus : Nat)
  if r = -1 then -2 else r

/-- The residue of a number. A power of two needs its exponent modulo 61 only, as `2 ^ 61` is one
modulo the modulus. -/
def residue? : Value → Option Int
  | .bool b => some (if b then 1 else 0)
  | .int i => some (signedResidue (i < 0) i.natAbs)
  | .float (.finite negative m e) => some (signedResidue negative (m * Nat.pow 2 (e % 61).toNat))
  | .float (.infinite negative) => some (signedResidue negative 314159)
  | _ => none

/-- The least power of two above a bound, `size` being the least one so far. -/
def powerAbove (fuel bound size : Nat) : Nat :=
  match fuel with
  | 0 => size
  | fuel + 1 => if size ≤ bound then powerAbove fuel bound (2 * size) else size

/-- The number of slots for some items: eight for up to four of them, and more than twice as many as
there are items otherwise. -/
def tableSize (count : Nat) : Nat := if count ≤ 4 then 8 else powerAbove count (2 * count) 8

/-- The slots that are tried together: a run of ten if it fits into the table, or just one. -/
def run (size slot : Nat) : List Nat :=
  (List.range (if slot + 9 < size then 10 else 1)).map (slot + ·)

/-- The first slot that is not taken, `slot` being tried next. What is left of the residue is used
up five binary digits at a time; without it every slot is reached, so `fuel` suffices if it is the
number of slots and the 13 steps that use up the residue. -/
def freeSlot (size : Nat) (taken : List Nat) (fuel rest slot : Nat) : Nat :=
  match fuel, (run size slot).find? fun s => s ∉ taken with
  | _, some s => s
  | 0, none => slot
  | fuel + 1, none => freeSlot size taken fuel (rest / 32) ((5 * slot + 1 + rest / 32) % size)

/-- A residue as 64 binary digits. -/
def digits (residue : Int) : Nat := (residue % (Nat.pow 2 64 : Nat)).toNat

/-- Items at their slots, put in one after another. -/
def placed (size : Nat) (items : List (Int × Value)) : List (Nat × Value) :=
  items.foldl (fun table (residue, item) =>
    let rest := digits residue
    (freeSlot size (table.map Prod.fst) (size + 13) rest (rest % size), item) :: table) []

def listed (items : List Value) : List Value :=
  match items.mapM fun item => (residue? item).map fun r => (r, item) with
  | none => items
  | some numbers =>
    ((placed (tableSize items.length) numbers).mergeSort fun a b => a.1 ≤ b.1).map Prod.snd

end ServiceContracts.Document.SetOrder
