import WorkloadBindings.Text.Basic
import WorkloadBindings.Timestamp.Basic

/-!
# Reading timestamps

`Timestamp.parse` reads date, time of day and offset as RFC 3339 has them, in a lenient form: white
space may stand between the parts, a blank may take the place of the `T`, a year may carry a sign,
and the offset may be written `UTC` or with a blank in place of its colon. A text fails at its
first wrong part, and a day, an offset or a point in time that does not exist is noticed last.
-/

namespace WorkloadBindings

namespace Timestamp

/-- Why a text is no timestamp. -/
inductive Fault where
  | tooShort
  | invalid
  | outOfRange
  | tooLong
  /-- The offset leads out of the years that are counted. -/
  | impossible
  deriving DecidableEq, Repr

/-- The words for a refused text. -/
def Fault.message : Fault → String
  | tooShort => "premature end of input"
  | invalid => "input contains invalid characters"
  | outOfRange => "input is out of range"
  | tooLong => "trailing input"
  | impossible => "no possible date and time matching input"

namespace Reader

/-- The number that a row of decimal digits writes. -/
def natOfDigits (ds : List Char) : Nat := ds.foldl (fun n d => 10 * n + (d.toNat - 48)) 0

/-- One digit or more, at most `width` of them. -/
def number (width : Nat) (cs : List Char) : Except Fault (Nat × List Char) :=
  let ds := (cs.take width).takeWhile Char.isDigit
  match cs with
  | [] => .error .tooShort
  | _ =>
    if ds.isEmpty then .error .invalid
    else if natOfDigits ds < 9223372036854775808 then .ok (natOfDigits ds, cs.drop ds.length)
    else .error .outOfRange

/-- A number that lies between two bounds, after white space. -/
def bounded (width low high : Nat) (cs : List Char) : Except Fault (Nat × List Char) := do
  let (n, rest) ← number width (Text.trimStart cs)
  if low ≤ n ∧ n ≤ high then .ok (n, rest) else .error .outOfRange

/-- A year: four digits at most, or a sign and any number of digits. -/
def year (cs : List Char) : Except Fault (Int × List Char) := do
  match Text.trimStart cs with
  | '-' :: rest =>
    let (n, rest) ← number rest.length rest
    if n ≤ 2147483648 then .ok (-(n : Int), rest) else .error .outOfRange
  | '+' :: rest =>
    let (n, rest) ← number rest.length rest
    if n < 2147483648 then .ok ((n : Int), rest) else .error .outOfRange
  | cs =>
    let (n, rest) ← number 4 cs
    .ok ((n : Int), rest)

/-- A certain character, after white space. -/
def mark (expected : Char) (cs : List Char) : Except Fault (List Char) :=
  match Text.trimStart cs with
  | [] => .error .tooShort
  | c :: rest => if c = expected then .ok rest else .error .invalid

/-- The fraction of a second in nanoseconds, when there is one; digits after the ninth are passed
over. -/
def secondFraction (cs : List Char) : Except Fault (Nat × List Char) :=
  match cs with
  | '.' :: rest => do
    let (n, after) ← number 9 rest
    let digits := rest.length - after.length
    .ok (n * Nat.pow 10 (9 - digits), after.dropWhile Char.isDigit)
  | _ => .ok (0, cs)

/-- Two digits that must stand here. -/
def twoDigits (cs : List Char) : Except Fault (Nat × Nat × List Char) :=
  match cs with
  | a :: b :: rest =>
    if a.isDigit && b.isDigit then .ok (a.toNat - 48, b.toNat - 48, rest) else .error .invalid
  | _ => if Text.byteWidth cs < 2 then .error .tooShort else .error .invalid

/-- Hours and minutes of an offset, its sign already read, in seconds. -/
def hoursMinutes (cs : List Char) : Except Fault (Int × List Char) := do
  let (h1, h2, rest) ← twoDigits cs
  let rest := rest.dropWhile fun c => c == ':' || Text.isBlank c
  let (m1, m2, rest) ← twoDigits rest
  if 6 ≤ m1 then .error .outOfRange
  else .ok ((((10 * h1 + h2) * 3600 + (10 * m1 + m2) * 60 : Nat) : Int), rest)

/-- The offset from UTC in seconds. -/
def offset (cs : List Char) : Except Fault (Int × List Char) :=
  let letters := (cs.take 3).map Char.toUpper
  if letters = ['U', 'T', 'C'] then .ok (0, cs.drop 3)
  else
    match cs with
    | [] => .error .tooShort
    | c :: rest =>
      if c = 'Z' ∨ c = 'z' then .ok (0, rest)
      else if c = '+' then hoursMinutes rest
      else if c = '-' ∨ c.toNat = 0x2212 then do
        let (n, rest) ← hoursMinutes rest
        .ok (-n, rest)
      else .error .invalid

end Reader

open Reader in
/-- The point in time that a text names. -/
def parse (text : String) : Except Fault Timestamp := do
  let (year, cs) ← year text.toList
  let cs ← mark '-' cs
  let (month, cs) ← bounded 2 1 12 cs
  let cs ← mark '-' cs
  let (day, cs) ← bounded 2 1 31 cs
  let cs ←
    match cs with
    | [] => Except.error Fault.tooShort
    | c :: rest =>
      if c = 't' ∨ c = 'T' ∨ c = ' ' then Except.ok rest else Except.error Fault.invalid
  let (hour, cs) ← bounded 2 0 23 cs
  let cs ← mark ':' cs
  let (minute, cs) ← bounded 2 0 59 cs
  let cs ← mark ':' cs
  let (second, cs) ← bounded 2 0 60 cs
  let (nanos, cs) ← secondFraction cs
  let (offset, cs) ← offset (Text.trimStart cs)
  if !(Text.trimStart cs).isEmpty then .error .tooLong
  else if daysInMonth year month < day || !isYear year || decide (86400 ≤ offset.natAbs) then
    .error .outOfRange
  else
    let days := Day.number ⟨year, month, day⟩
    -- A leap second is the second before it with a fraction beyond a whole second.
    let leap := second = 60
    let clock : Int := hour * 3600 + minute * 60 + (if leap then 59 else second)
    let t : Timestamp :=
      ⟨days * 86400 + clock - offset, if leap then nanos + 1000000000 else nanos⟩
    if t.isCounted then .ok t else .error .impossible

end Timestamp

end WorkloadBindings
