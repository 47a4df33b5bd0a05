import LinkMonitor.Numeric.Decimal

/-!
# Calendar time

Seconds since 1970 as date and time in UTC, by the Gregorian calendar carried back before its
introduction. Only the years 1 to 9999 have a text.
-/

namespace LinkMonitor

structure CivilTime where
  year : Int
  month : Nat
  day : Nat
  hour : Nat
  minute : Nat
  second : Nat
  deriving DecidableEq, Repr

namespace CivilTime

def isLeapYear (year : Int) : Bool :=
  year % 4 = 0 && (year % 100 ≠ 0 || year % 400 = 0)

def monthLengths (leap : Bool) : List Nat :=
  [31, if leap then 29 else 28, 31, 30, 31, 30, 31, 31, 30, 31, 30, 31]

/-- Days from the first day of year 1 to the first day of `year`. -/
def daysBeforeYear (year : Int) : Int :=
  let y := year - 1
  y * 365 + y / 4 - y / 100 + y / 400

/-- The year in which a day lies, and the day's number in it from zero. -/
def yearOfDay (day : Int) : Int × Nat :=
  let cycles := day / 146097
  let inCycle := day % 146097
  let centuries := min (inCycle / 36524) 3
  let inCentury := inCycle - centuries * 36524
  let fours := inCentury / 1461
  let inFour := inCentury % 1461
  let years := min (inFour / 365) 3
  (cycles * 400 + centuries * 100 + fours * 4 + years + 1, (inFour - years * 365).toNat)

/-- Month and day, both from one, of a day of the year that is counted from zero. -/
def monthOfDay : List Nat → Nat → Nat × Nat
  | [], day => (1, day + 1)
  | length :: rest, day =>
    if day < length then (1, day + 1)
    else
      let (month, inMonth) := monthOfDay rest (day - length)
      (month + 1, inMonth)

/-- Days from the first day of year 1 to 1970. -/
def epochDay : Int := 719162

def ofSeconds (t : Int) : CivilTime :=
  let inDay := (t % 86400).toNat
  let (year, dayOfYear) := yearOfDay (t / 86400 + epochDay)
  let (month, day) := monthOfDay (monthLengths (isLeapYear year)) dayOfYear
  ⟨year, month, day, inDay / 3600, inDay / 60 % 60, inDay % 60⟩

end CivilTime

/-- Why a timestamp has no text. -/
inductive TimeError
  /-- It does not fit a signed number of 64 bits. -/
  | outsideClock
  /-- Its year, counted from 1900, does not fit a signed number of 32 bits. -/
  | yearTooWide
  /-- Its year is not one of 1 to 9999. -/
  | yearOutOfRange (year : Int)
  deriving DecidableEq, Repr

def TimeError.message : TimeError → String
  | outsideClock => "timestamp out of range for platform time_t"
  | yearTooWide => "[Errno 75] Value too large for defined data type"
  | yearOutOfRange year => "year " ++ toString year ++ " is out of range"

namespace CivilTime

def ofTimestamp (t : Int) : Except TimeError CivilTime :=
  if t < -0x8000000000000000 ∨ 0x8000000000000000 ≤ t then .error .outsideClock
  else
    let civil := ofSeconds t
    if civil.year - 1900 < -0x80000000 ∨ 0x80000000 ≤ civil.year - 1900 then .error .yearTooWide
    else if 1 ≤ civil.year ∧ civil.year ≤ 9999 then .ok civil
    else .error (.yearOutOfRange (Int.bmod civil.year 0x100000000))

def twoDigits (n : Nat) : String := zeroPadded 2 n

/-- Everything after the year. -/
def textAfterYear (c : CivilTime) : String :=
  "-" ++ twoDigits c.month ++ "-" ++ twoDigits c.day ++ "T" ++ twoDigits c.hour ++ ":" ++
    twoDigits c.minute ++ ":" ++ twoDigits c.second

end CivilTime

/-- Date and time with a `Z`; the year has no leading zeros. -/
def formatTimestamp (t : Int) : Except TimeError String := do
  let civil ← CivilTime.ofTimestamp t
  return toString civil.year ++ civil.textAfterYear ++ "Z"

/-- Date and time with a numeric offset; the year has four digits. -/
def isoTimestamp (t : Int) : Except TimeError String := do
  let civil ← CivilTime.ofTimestamp t
  return zeroPadded 4 civil.year ++ civil.textAfterYear ++ "+00:00"

end LinkMonitor
