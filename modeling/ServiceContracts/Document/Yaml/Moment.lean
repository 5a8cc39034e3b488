import ServiceContracts.Document.Value
import ServiceContracts.Document.Yaml.Token
import ServiceContracts.Text.Split

/-!
# Moments in YAML

A date is written with its year, month and day, and a moment adds the time of day behind a `T` or
blanks, perhaps with an offset from universal time. One line break may follow.

* `parts?` : the parts that are written;
* `isMoment` : a text is a moment without being said to be one;
* `momentOf` : the date or moment that a text stands for.
-/

namespace ServiceContracts.Document.Yaml
open Text

/-- A text without the line break at its end. -/
def withoutFinalBreak (cs : List Char) : List Char :=
  if cs.getLast? = some '\n' then cs.dropLast else cs

/-- The number of one or two digits at the start, and what follows. -/
def shortNumber? : List Char → Option (Nat × List Char)
  | a :: b :: cs =>
    if isDigit a && isDigit b then some (decimalValue [a, b], cs)
    else if isDigit a then some (decimalValue [a], b :: cs)
    else none
  | [a] => if isDigit a then some (decimalValue [a], []) else none
  | [] => none

/-- The number of exactly `width` digits at the start, and what follows. -/
def fixedNumber? (width : Nat) (cs : List Char) : Option (Nat × List Char) :=
  let ds := cs.take width
  if ds.length = width && ds.all isDigit then some (decimalValue ds, cs.drop width) else none

/-- The parts of a moment. -/
structure Parts where
  date : Date
  /-- Hour, minute and second, the digits of the fraction, and the offset. -/
  clock : Option (Nat × Nat × Nat × List Char × Option Int)

/-- An offset from universal time in minutes, if one is written. -/
def offset? (cs : List Char) : Option (Option Int) :=
  match cs.dropWhile isBlankMark with
  | [] => if cs.isEmpty then some none else none
  | ['Z'] => some (some 0)
  | sign :: ds => do
    if sign = '+' || sign = '-' then
      let (hours, rest) ← shortNumber? ds
      let minutes ← match rest with
        | [] => some 0
        | ':' :: ds => do
          let (m, rest) ← fixedNumber? 2 ds
          if rest.isEmpty then some m else none
        | _ => none
      let east : Int := hours * 60 + minutes
      some (some (if sign = '-' then -east else east))
    else none
where
  /-- A space or a tab. -/
  isBlankMark (c : Char) : Bool := c == ' ' || c == '\t'

/-- The time of day behind a date. -/
def clock? (cs : List Char) : Option (Nat × Nat × Nat × List Char × Option Int) := do
  let (hour, cs) ← shortNumber? cs
  let cs ← after? [':'] cs
  let (minute, cs) ← fixedNumber? 2 cs
  let cs ← after? [':'] cs
  let (second, cs) ← fixedNumber? 2 cs
  let (fraction, cs) := match cs with
    | '.' :: ds => Number.digits ds
    | _ => ([], cs)
  let offset ← offset? cs
  some (hour, minute, second, fraction, offset)

def parts? (cs : List Char) : Option Parts := do
  let (year, cs) ← fixedNumber? 4 cs
  let cs ← after? ['-'] cs
  let (month, cs) ← shortNumber? cs
  let cs ← after? ['-'] cs
  let (day, cs) ← shortNumber? cs
  let date : Date := { year, month, day }
  match cs with
  | [] => some { date, clock := none }
  | c :: rest =>
    if c = 'T' || c = 't' then
      let clock ← clock? rest
      some { date, clock := some clock }
    else if c = ' ' || c = '\t' then
      let clock ← clock? (rest.dropWhile fun c => c == ' ' || c == '\t')
      some { date, clock := some clock }
    else none

def isMoment (cs : List Char) : Bool :=
  match parts? cs with
  | some { clock := some _, .. } => true
  | some { clock := none, .. } => cs.length == 10
  | none => false

/-- The fault of a date that is not in the calendar. -/
def dateFault? (d : Date) : Option String :=
  if d.year = 0 then some "year 0 is out of range"
  else if d.month = 0 || d.month > 12 then some "month must be in 1..12"
  else if d.day = 0 || d.day > daysIn d.year d.month then some "day is out of range for month"
  else none

/-- The fault of a time of day. -/
def clockFault? (hour minute second : Nat) : Option String :=
  if hour > 23 then some "hour must be in 0..23"
  else if minute > 59 then some "minute must be in 0..59"
  else if second > 59 then some "second must be in 0..59"
  else none

/-- The fault of an offset: it has to be shorter than a day. -/
def offsetFault? (offset : Option Int) : Option String :=
  (offset.filter fun minutes => minutes.natAbs ≥ 1440).map fun minutes =>
    "offset must be a timedelta strictly between -timedelta(hours=24) and timedelta(hours=24), not "
      ++ String.ofList (shownSpan minutes) ++ "."

def momentOf (cs : List Char) : Except Fault Value :=
  match parts? (withoutFinalBreak cs) with
  | none => .error .noMoment
  | some { date, clock := none } =>
    match dateFault? date with
    | some message => .error (.badMoment message)
    | none => .ok (.date date)
  | some { date, clock := some (hour, minute, second, fraction, offset) } =>
    let fault := (offsetFault? offset).or ((dateFault? date).or (clockFault? hour minute second))
    match fault with
    | some message => .error (.badMoment message)
    | none =>
      let digits := fraction.take 6
      let micro := decimalValue (digits ++ List.replicate (6 - digits.length) '0')
      .ok (.moment { date, hour, minute, second, micro, offset })

end ServiceContracts.Document.Yaml
