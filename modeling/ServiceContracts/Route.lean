import ServiceContracts.Path

/-!
# Routes

An endpoint path is a list of segments, some of them dynamic: `:id` and `*` take one segment of a
call, `:id?` at the end takes one or none, and `**` and `(.*)` take all that remains.

* `Segment`, `Segment.read` : a segment, and how it is read;
* `accepts` : whether a list of segments serves the segments of a call;
* `serves` : the same for the paths;
* `specificity` : the number of dynamic segments, by which the most specific of several routes is
  told.
-/

namespace ServiceContracts.Route
open Text

inductive Segment where
  /-- A text that a call has to repeat. -/
  | literal (text : List Char)
  /-- `:name`. -/
  | parameter (name : List Char)
  /-- `:name?`. -/
  | optional (name : List Char)
  /-- `*`. -/
  | wildcard
  /-- `**`. -/
  | everything
  /-- `(.*)`. -/
  | anyGroup
deriving DecidableEq

namespace Segment

def read (text : List Char) : Segment :=
  if text = ['*', '*'] then everything
  else if text = ['(', '.', '*', ')'] then anyGroup
  else if text = ['*'] then wildcard
  else match text with
    | ':' :: name =>
      if name.getLast? = some '?' then optional name.dropLast else parameter name
    | _ => literal text

/-- The segment takes all that remains. -/
def isCatchAll : Segment → Bool
  | everything | anyGroup => true
  | _ => false

/-- The segment is a parameter that may be missing at the end. -/
def isOptional : Segment → Bool
  | optional _ => true
  | _ => false

/-- The segment takes more than one text. -/
def isDynamic : Segment → Bool
  | literal _ => false
  | _ => true

/-- The segment may belong to the tail that needs nothing of a call. -/
def isSkippable (s : Segment) : Bool := s.isOptional || s.isCatchAll

/-- The segment takes this text of a call. -/
def takes : Segment → List Char → Bool
  | literal text, called => text == called
  | _, _ => true

end Segment

def read (path : String) : List Segment := (Path.segments path.toList).map Segment.read

/-- Where the run of skippable segments at the end begins. -/
def tailStart (route : List Segment) : Nat :=
  route.length - (route.reverse.takeWhile Segment.isSkippable).length

/-- The segments of a call are served: a catch-all takes the rest, a segment of the skippable tail
takes one if there is one left, and any other segment takes exactly one. -/
def accepts : List Segment → List (List Char) → Bool
  | [], call => call.isEmpty
  | segment :: route, call =>
    if segment.isCatchAll then true
    else if (segment :: route).all Segment.isSkippable then accepts route call.tail
    else match call with
      | [] => false
      | called :: call => segment.takes called && accepts route call

def serves (endpoint call : String) : Bool :=
  endpoint == call || accepts (read endpoint) (Path.segments call.toList)

def specificity (path : String) : Nat := (read path).countP Segment.isDynamic

end ServiceContracts.Route
