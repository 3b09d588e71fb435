/-
**Clock times.**

A clock shows the seconds since the beginning of 1970 as a double precision number.

* `civilDate`: the date of any day, also before year 1 and after year 9999;
* `clockInstant`: the instant that a clock shows, to the nearest microsecond;
* `clockText`: the date and the time of the second that has begun.
-/

import DocQuery.Number.Binary64
import DocQuery.Time.Instant

namespace DocQuery

/-- Why a clock shows no instant. -/
inductive ClockError where
  /-- What it shows is no number, or an instant outside the years 1 to 9999. -/
  | outside
  /-- The year has no 32 binary digits. -/
  | unsupported
  /-- The seconds have no 64 binary digits. -/
  | tooFar
deriving DecidableEq, Repr

/-- The number of days before the beginning of 1970. -/
def epochDay : Int := dayNumber 1970 1 1

/-- The number of days after which the calendar repeats itself, and the years that they make. -/
def cycleDays : Nat := 146097
def cycleYears : Nat := 400

/-- The date of a day, counted from the first of January of year 1. The year may be negative. -/
def civilDate (days : Int) : Int × Nat × Nat :=
  let (year, month, day) := dateOfDayNumber (days.fmod cycleDays).toNat
  (year + cycleYears * days.fdiv cycleDays, month, day)

/-- The value of a clock time in units of its format. -/
def clockUnits (time : Binary64) : Except ClockError Int :=
  match time with
  | .nan => .error .outside
  | .infinite _ => .error .tooFar
  | .finite negative units _ => .ok (if negative then -units else units)

/-- The day of a second, and the second of the day, if the year can be counted. -/
def dayOfSecond (second : Int) : Except ClockError (Int × Nat) :=
  let day := second.fdiv 86400 + epochDay
  if second < -power 2 63 ∨ power 2 63 ≤ second then .error .tooFar
  else if (civilDate day).1 < -power 2 31 + 1900 ∨ power 2 31 + 1900 ≤ (civilDate day).1 then
    .error .unsupported
  else .ok (day, (second.fmod 86400).toNat)

/-- The instant with so many microseconds since the beginning of 1970, in universal time. -/
def instantOfMicroseconds (microseconds : Int) : Except ClockError Instant := do
  let (day, second) ← dayOfSecond (microseconds.fdiv 1000000)
  let (year, month, date) := civilDate day
  if year < 1 ∨ 9999 < year then .error .outside
  else return ⟨year.toNat, month, date, second / 3600, second / 60 % 60, second % 60,
    (microseconds.fmod 1000000).toNat, 0⟩

/-- The microseconds of a part of a second, given in units. They are counted by a product that is
rounded to a double precision number, and then to a whole number. -/
def fractionMicroseconds (units : Int) : Int :=
  let product := (Binary64.ofUnits false (units.natAbs * 1000000) 1).units?.getD 0
  let size : Int := divideRounded product.toNat (power 2 1074)
  if units < 0 then -size else size

/-- The instant that a clock shows, to the nearest microsecond. -/
def clockInstant (time : Binary64) : Except ClockError Instant := do
  let units ← clockUnits time
  let whole := units.tdiv (power 2 1074)
  instantOfMicroseconds (whole * 1000000 + fractionMicroseconds (units - whole * power 2 1074))

/-- The date and the time of the last full second that a clock shows. -/
def clockText (time : Binary64) : Except ClockError String := do
  let (day, second) ← dayOfSecond ((← clockUnits time).fdiv (power 2 1074))
  let (year, month, date) := civilDate day
  return toString year ++ "-" ++ padded 2 month ++ "-" ++ padded 2 date ++ " " ++
    padded 2 (second / 3600) ++ ":" ++ padded 2 (second / 60 % 60) ++ ":" ++ padded 2 (second % 60)

end DocQuery
