import ServiceContracts.Number.Integer

/-!
# Dates and times of a document

A date is one of the Gregorian calendar in the years 1 to 9999; a moment adds a time of day and
perhaps an offset from universal time.
-/

namespace ServiceContracts.Document

/-- A day. -/
structure Date where
  year : Nat
  month : Nat
  day : Nat
deriving DecidableEq, Repr

/-- A moment; `offset` is in minutes east of universal time. -/
structure Moment where
  date : Date
  hour : Nat
  minute : Nat
  second : Nat
  micro : Nat
  offset : Option Int
deriving DecidableEq, Repr

/-- The year has a 29th of February. -/
def isLeap (year : Nat) : Bool := year % 4 == 0 && (year % 100 != 0 || year % 400 == 0)

/-- The number of days of a month. -/
def daysIn (year month : Nat) : Nat :=
  if month = 2 then (if isLeap year then 29 else 28)
  else if month ∈ [4, 6, 9, 11] then 30
  else 31

/-- The days from the first day of year 1 to a date. -/
def Date.ordinal (d : Date) : Nat :=
  let y := d.year - 1
  365 * y + y / 4 - y / 100 + y / 400 +
    (List.range (d.month - 1)).foldl (fun days m => days + daysIn d.year (m + 1)) d.day

/-- A number with at least `width` digits. -/
def padded (width n : Nat) : List Char :=
  let digits := Number.natText n
  List.replicate (width - digits.length) '0' ++ digits

/-- `year-month-day`. -/
def Date.text (d : Date) : List Char :=
  padded 4 d.year ++ '-' :: padded 2 d.month ++ '-' :: padded 2 d.day

/-- An offset as `+hh:mm` or `-hh:mm`. -/
def offsetText (minutes : Int) : List Char :=
  (if minutes < 0 then '-' else '+') ::
    (padded 2 (minutes.natAbs / 60) ++ ':' :: padded 2 (minutes.natAbs % 60))

/-- A moment with the given character between date and time. -/
def Moment.text (between : Char) (t : Moment) : List Char :=
  t.date.text ++
    between :: (padded 2 t.hour ++ ':' :: padded 2 t.minute ++ ':' :: padded 2 t.second) ++
    (if t.micro = 0 then [] else '.' :: padded 6 t.micro) ++
    (match t.offset with
    | none => []
    | some minutes => offsetText minutes)

/-- A date, a moment or a span of time as a constructor with its parts. -/
def constructed (name : String) (parts : List (List Char)) : List Char :=
  name.toList ++ '(' :: (", ".toList.intercalate parts) ++ [')']

/-- A span of time, given in minutes, as a constructor with its days and seconds; the seconds are
never negative. -/
def shownSpan (minutes : Int) : List Char :=
  let days := minutes.fdiv 1440
  let seconds := (minutes.fmod 1440 * 60).toNat
  constructed "datetime.timedelta"
    ((if days = 0 then [] else ["days=".toList ++ Number.intText days]) ++
      (if seconds = 0 then [] else ["seconds=".toList ++ Number.natText seconds]))

/-- The microseconds from the start of year 1 in universal time; none without an offset. -/
def Moment.universal? (t : Moment) : Option Int :=
  t.offset.map fun minutes =>
    ((((t.date.ordinal * 24 + t.hour) * 60 + t.minute : Nat) - minutes) * 60 + t.second) * 1000000 +
      t.micro

end ServiceContracts.Document
