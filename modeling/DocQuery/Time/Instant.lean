/-
**Instants.**

An instant is a date of the Gregorian calendar, a time of day and an offset from universal time, so
that the written form is kept beside the moment it denotes.

* `dayNumber` counts days from the first of January of year 1, and `dateOfDayNumber` reads a date
  back from that number;
* `Instant.moment` is the moment in microseconds, by which instants are compared;
* `Instant.isoText` is the standard written form.
-/

import DocQuery.Number.Decimal

namespace DocQuery

/-! ### Dates -/

/-- Whether a year has a 29th of February. -/
def isLeapYear (year : Nat) : Bool := year % 4 == 0 && (year % 100 != 0 || year % 400 == 0)

/-- The number of days of a month. -/
def monthLength (year month : Nat) : Nat :=
  if month = 2 then if isLeapYear year then 29 else 28
  else if month = 4 ∨ month = 6 ∨ month = 9 ∨ month = 11 then 30
  else 31

/-- The number of days before a year, counted from year 1. -/
def daysBeforeYear (year : Nat) : Nat :=
  let past := year - 1
  365 * past + past / 4 - past / 100 + past / 400

/-- The number of days of a year before one of its months. -/
def daysBeforeMonth (year month : Nat) : Nat :=
  (List.range (month - 1)).foldl (fun days index => days + monthLength year (index + 1)) 0

/-- The number of days before a date, counted from the first of January of year 1. -/
def dayNumber (year month day : Nat) : Nat :=
  daysBeforeYear year + daysBeforeMonth year month + (day - 1)

/-- The month and the day of a day of the year, which counts from 0, starting the search at a
month and making at most `fuel` steps. -/
def monthDay (year : Nat) : Nat → Nat → Nat → Nat × Nat
  | 0, month, rest => (month, rest + 1)
  | fuel + 1, month, rest =>
    if rest < monthLength year month then (month, rest + 1)
    else monthDay year fuel (month + 1) (rest - monthLength year month)

/-- The date with a given number of days before it. The year is estimated by the length of the
mean year, which is at most one too large. -/
def dateOfDayNumber (days : Nat) : Nat × Nat × Nat :=
  let estimate := days * 400 / 146097 + 1
  let year := if days < daysBeforeYear estimate then estimate - 1 else
    if daysBeforeYear (estimate + 1) ≤ days then estimate + 1 else estimate
  let (month, day) := monthDay year 11 1 (days - daysBeforeYear year)
  (year, month, day)

/-! ### Instants -/

/-- A date, a time of day and the offset in minutes by which it is ahead of universal time. -/
structure Instant where
  year : Nat
  month : Nat
  day : Nat
  hour : Nat
  minute : Nat
  second : Nat
  microsecond : Nat
  offset : Int
deriving DecidableEq

/-- Digits of a number, with zeros in front up to a width. -/
def padded (width n : Nat) : String :=
  let digits := digitChars n
  String.ofList (List.replicate (width - digits.length) '0' ++ digits)

namespace Instant

/-- The moment in microseconds of universal time since the first of January of year 1. -/
def moment (t : Instant) : Int :=
  let seconds : Int := dayNumber t.year t.month t.day * 86400 + t.hour * 3600 + t.minute * 60 +
    t.second - t.offset * 60
  seconds * 1000000 + t.microsecond

/-- The written form with a given separator between date and time. Microseconds are written only if
there are any. -/
def textWith (t : Instant) (separator : String) : String :=
  let date := padded 4 t.year ++ "-" ++ padded 2 t.month ++ "-" ++ padded 2 t.day
  let time := padded 2 t.hour ++ ":" ++ padded 2 t.minute ++ ":" ++ padded 2 t.second
  let fraction := if t.microsecond = 0 then "" else "." ++ padded 6 t.microsecond
  let size := t.offset.natAbs
  let zone := (if t.offset < 0 then "-" else "+") ++ padded 2 (size / 60) ++ ":" ++
    padded 2 (size % 60)
  date ++ separator ++ time ++ fraction ++ zone

/-- The standard written form. -/
def isoText (t : Instant) : String := t.textWith "T"

/-- The written form with a space between date and time. -/
def plainText (t : Instant) : String := t.textWith " "

/-- Whether the fields are those of an existing date between the years 1 and 9999 and of a time of
day, with an offset of less than a day. -/
def isValid (t : Instant) : Bool :=
  1 ≤ t.year && t.year ≤ 9999 && 1 ≤ t.month && t.month ≤ 12 && 1 ≤ t.day &&
    t.day ≤ monthLength t.year t.month && t.hour < 24 && t.minute < 60 && t.second < 60 &&
    t.offset.natAbs < 1440

end Instant

end DocQuery
