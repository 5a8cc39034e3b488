/-!
# Similar texts

Two texts share their longest common stretch, and what they share on either side of it. They are
similar if three fifths of their characters are shared.

* `longest` : the longest stretch of two texts;
* `shared` : how many characters two texts share;
* `closest` : those of some texts that are most similar to a word.
-/

namespace ServiceContracts.Text

/-- How many characters two texts start with together. -/
def agreement : List Char → List Char → Nat
  | c :: cs, d :: ds => if c = d then agreement cs ds + 1 else 0
  | _, _ => 0

/-- A stretch of characters in two texts, and how many characters stand before it in each. -/
structure Stretch where
  left : Nat
  right : Nat
  length : Nat
deriving DecidableEq, Repr

/-- The longest stretch of two texts: of several ones the first in the first text, and of those the
first in the second. -/
def longest (cs ds : List Char) : Stretch :=
  (List.range cs.length).foldl (fun best left =>
    (List.range ds.length).foldl (fun best right =>
      let length := agreement (cs.drop left) (ds.drop right)
      if length > best.length then { left, right, length } else best) best)
    { left := 0, right := 0, length := 0 }

/-- How many characters two texts share; `fuel` bounds the number of stretches. -/
def sharedIn (fuel : Nat) (cs ds : List Char) : Nat :=
  match fuel with
  | 0 => 0
  | fuel + 1 =>
    let s := longest cs ds
    if s.length = 0 then 0
    else sharedIn fuel (cs.take s.left) (ds.take s.right) + s.length +
      sharedIn fuel (cs.drop (s.left + s.length)) (ds.drop (s.right + s.length))

/-- How many characters two texts share. Every stretch has one of the first text. -/
def shared (cs ds : List Char) : Nat := sharedIn (cs.length + 1) cs ds

/-- Some characters of two texts are three fifths of all. -/
def isMost (each : Nat) (cs ds : List Char) : Bool := 10 * each ≥ 3 * (cs.length + ds.length)

/-- Two texts are similar. They share at most all characters of the shorter one. -/
def isSimilar (cs ds : List Char) : Bool :=
  isMost (min cs.length ds.length) cs ds && isMost (shared cs ds) cs ds

/-- One text is more similar to a word than another one, or as similar and behind it in order. -/
def isCloser (word : List Char) (a b : String) : Bool :=
  let left := shared a.toList word * (b.length + word.length)
  let right := shared b.toList word * (a.length + word.length)
  left > right || (left = right && !(a < b))

/-- The three texts that are most similar to a word, as far as they are similar, in order. -/
def closest (texts : List String) (word : String) : List String :=
  let similar := texts.filter fun t => isSimilar t.toList word.toList
  ((similar.mergeSort (isCloser word.toList)).take 3).mergeSort fun a b => !(b < a)

end ServiceContracts.Text
