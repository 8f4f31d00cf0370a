/-!
# Points in time

A timestamp counts seconds since the first of January 1970 in UTC, with a fraction in nanoseconds.
A fraction of a whole second or more lies inside a leap second, which is written as second 60.
`Timestamp.render` writes whole seconds, as the API shows points in time, `renderMicros` six digits
of the fraction, `renderNanos` all nine, and `renderOffset` the digits that are needed, with a
numeric offset.
-/

namespace WorkloadBindings

/-- A point in time. -/
structure Timestamp where
  /-- Seconds since the beginning of 1970 in UTC. -/
  seconds : Int
  /-- The fraction in nanoseconds; from a thousand million on it lies in a leap second. -/
  nanos : Nat
  deriving DecidableEq, Repr

namespace Timestamp

/-- A day of the calendar. -/
structure Day where
  year : Int
  month : Nat
  day : Nat
  deriving DecidableEq, Repr

/-- The day that is a number of days after the first of January 1970. -/
def Day.ofNumber (n : Int) : Day :=
  -- Years are counted from March here, so that the leap day is the last day of a year.
  let z := n + 719468
  let era := z / 146097
  let dayOfEra := (z % 146097).toNat
  let yearOfEra := (dayOfEra - dayOfEra / 1460 + dayOfEra / 36524 - dayOfEra / 146096) / 365
  let dayOfYear := dayOfEra - (365 * yearOfEra + yearOfEra / 4 - yearOfEra / 100)
  let shifted := (5 * dayOfYear + 2) / 153
  let month := if shifted < 10 then shifted + 3 else shifted - 9
  let year := (yearOfEra : Int) + era * 400
  ⟨if month ≤ 2 then year + 1 else year, month, dayOfYear - (153 * shifted + 2) / 5 + 1⟩

/-- The number of days from the first of January 1970 to a day. -/
def Day.number (d : Day) : Int :=
  let year := if d.month ≤ 2 then d.year - 1 else d.year
  let era := year / 400
  let yearOfEra := (year % 400).toNat
  let shifted := if 2 < d.month then d.month - 3 else d.month + 9
  let dayOfYear := (153 * shifted + 2) / 5 + d.day - 1
  let dayOfEra := yearOfEra * 365 + yearOfEra / 4 - yearOfEra / 100 + dayOfYear
  era * 146097 + (dayOfEra : Int) - 719468

/-- The year has a 29th of February. -/
def isLeapYear (year : Int) : Bool :=
  year % 4 == 0 && (year % 100 != 0 || year % 400 == 0)

/-- The year is one of those that are counted. -/
def isYear (year : Int) : Bool := decide (-262143 ≤ year ∧ year ≤ 262142)

/-- The number of days in a month. -/
def daysInMonth (year : Int) (month : Nat) : Nat :=
  if month = 2 then (if isLeapYear year then 29 else 28)
  else if month = 4 ∨ month = 6 ∨ month = 9 ∨ month = 11 then 30
  else 31

/-- A number in decimal, with zeros in front up to a width. -/
def padded (width n : Nat) : String :=
  let digits := toString n
  String.ofList (List.replicate (width - digits.length) '0') ++ digits

/-- A year: four digits up to 9999, otherwise a sign and at least four digits. -/
def renderYear (year : Int) : String :=
  if 0 ≤ year ∧ year ≤ 9999 then padded 4 year.toNat
  else if year < 0 then "-" ++ padded 4 year.natAbs
  else "+" ++ padded 4 year.toNat

/-- Date and time of day in whole seconds. -/
def renderSeconds (t : Timestamp) : String :=
  let day := Day.ofNumber (t.seconds / 86400)
  let rest := (t.seconds % 86400).toNat
  let second := rest % 60 + (if 1000000000 ≤ t.nanos then 1 else 0)
  renderYear day.year ++ "-" ++ padded 2 day.month ++ "-" ++ padded 2 day.day ++ "T" ++
    padded 2 (rest / 3600) ++ ":" ++ padded 2 (rest / 60 % 60) ++ ":" ++ padded 2 second

/-- The fraction of the second in nanoseconds, also of a leap second. -/
def fraction (t : Timestamp) : Nat := t.nanos % 1000000000

/-- The text in UTC with whole seconds. -/
def render (t : Timestamp) : String := t.renderSeconds ++ "Z"

/-- The text in UTC with microseconds. -/
def renderMicros (t : Timestamp) : String :=
  t.renderSeconds ++ "." ++ padded 6 (t.fraction / 1000) ++ "Z"

/-- The text in UTC with nanoseconds, which says all there is to the point in time. -/
def renderNanos (t : Timestamp) : String :=
  t.renderSeconds ++ "." ++ padded 9 t.fraction ++ "Z"

/-- The text in UTC with a numeric offset, and three, six or nine digits of a fraction other than
zero. -/
def renderOffset (t : Timestamp) : String :=
  let n := t.fraction
  let digits :=
    if n = 0 then ""
    else if n % 1000000 = 0 then "." ++ padded 3 (n / 1000000)
    else if n % 1000 = 0 then "." ++ padded 6 (n / 1000)
    else "." ++ padded 9 n
  t.renderSeconds ++ digits ++ "+00:00"

/-- The point in time a number of seconds later. Forward from a leap second the count begins with
the second before it, and backward with the one after it. -/
def addSeconds (t : Timestamp) (seconds : Int) : Timestamp :=
  if t.nanos < 1000000000 ∨ seconds = 0 then ⟨t.seconds + seconds, t.nanos⟩
  else if 0 < seconds then ⟨t.seconds + seconds, t.fraction⟩
  else ⟨t.seconds + 1 + seconds, t.fraction⟩

/-- The point in time lies in a year that is counted. -/
def isCounted (t : Timestamp) : Bool := isYear (Day.ofNumber (t.seconds / 86400)).year

/-- One point in time is later than another. -/
def isAfter (a b : Timestamp) : Bool :=
  decide (b.seconds < a.seconds) || (a.seconds == b.seconds && decide (b.nanos < a.nanos))

end Timestamp

end WorkloadBindings
