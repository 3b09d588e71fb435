/-
**Reading instants.**

The accepted forms are a date `YYYY-MM-DD`, a date and a time separated by `T` or a space, with or
without seconds and a fraction of a second, and either of them followed by `Z` or an offset
`+HH:MM`, `+HHMM`, `-HH:MM` or `-HHMM`.

* Behind a date alone, the sign of an offset is taken as the separator between date and time, so
  that the offset is the time of day;
* `Instant.parse?` gives no instant for a date, time or offset that does not exist;
* digits of a fraction beyond the sixth are dropped.
-/

import DocQuery.Text.Trim
import DocQuery.Time.Instant

namespace DocQuery.InstantReader

/-- A number of exactly two digits. -/
def twoDigits : List Char → Option (Nat × List Char)
  | a :: b :: rest =>
    if isAsciiDigit a && isAsciiDigit b then
      some (10 * asciiDigitValue a + asciiDigitValue b, rest)
    else none
  | _ => none

/-- A given character. -/
def expect (c : Char) : List Char → Option (List Char)
  | d :: rest => if c = d then some rest else none
  | [] => none

/-- A date. -/
def date (here : List Char) : Option ((Nat × Nat × Nat) × List Char) := do
  let (century, rest) ← twoDigits here
  let (year, rest) ← twoDigits rest
  let (month, rest) ← twoDigits (← expect '-' rest)
  let (day, rest) ← twoDigits (← expect '-' rest)
  some ((100 * century + year, month, day), rest)

/-- The microseconds that the digits of a fraction of a second stand for. -/
def microseconds (digits : List Char) : Nat :=
  ((digits.take 6 ++ List.replicate (6 - digits.length) '0').foldl
    (fun value c => 10 * value + asciiDigitValue c) 0)

/-- What is behind digits of any script, if there is anything. -/
def behindDigits (here : List Char) : List Char :=
  let rest := here.dropWhile fun c => (decimalValue? c).isSome
  if rest.isEmpty then here else rest

/-- A fraction of a second, or nothing. In front of an offset, the digits that are dropped may be of
any script. -/
def fraction (here : List Char) : Nat × List Char :=
  match here with
  | '.' :: c :: rest =>
    if isAsciiDigit c then
      let digits := (c :: rest).takeWhile isAsciiDigit
      let behind := (c :: rest).dropWhile isAsciiDigit
      (microseconds digits, if 6 ≤ digits.length then behindDigits behind else behind)
    else (0, here)
  | _ => (0, here)

/-- Seconds and their fraction, or nothing. -/
def seconds (here : List Char) : (Nat × Nat) × List Char :=
  match here with
  | ':' :: rest =>
    match twoDigits rest with
    | some (second, rest) =>
      let (part, rest) := fraction rest
      ((second, part), rest)
    | none => ((0, 0), here)
  | _ => ((0, 0), here)

/-- Hours and minutes of an offset, with or without a colon between them. -/
def hoursMinutes (here : List Char) : Option ((Nat × Nat) × List Char) := do
  let (hours, rest) ← twoDigits here
  let (minutes, rest) ← twoDigits ((expect ':' rest).getD rest)
  some ((hours, minutes), rest)

/-- The offset that ends a text, in minutes, and zero where there is none. -/
def zone (here : List Char) : Option Int :=
  match here with
  | [] => some 0
  | ['Z'] => some 0
  | sign :: rest =>
    if sign = '+' ∨ sign = '-' then
      match hoursMinutes rest with
      | some ((hours, minutes), []) =>
        let size : Int := 60 * hours + minutes
        some (if sign = '-' then -size else size)
      | _ => none
    else none

/-- The time of day and the offset behind a date. -/
def timeAndZone (here : List Char) : Option ((Nat × Nat × Nat × Nat) × Int) :=
  match here with
  | [] => some ((0, 0, 0, 0), 0)
  | ['Z'] => some ((0, 0, 0, 0), 0)
  | separator :: rest =>
    if separator = 'T' ∨ separator = ' ' then do
      let (hour, rest) ← twoDigits rest
      let (minute, rest) ← twoDigits (← expect ':' rest)
      let ((second, part), rest) := seconds rest
      some ((hour, minute, second, part), ← zone rest)
    else if separator = '+' ∨ separator = '-' then
      match hoursMinutes rest with
      | some ((hour, minute), []) => some ((hour, minute, 0, 0), 0)
      | _ => none
    else none

end DocQuery.InstantReader

namespace DocQuery

/-- The instant that a text denotes, with any white space around it. -/
def Instant.parse? (text : String) : Option Instant := do
  let ((year, month, day), rest) ← InstantReader.date (trimBlanks text.toList)
  let ((hour, minute, second, part), offset) ← InstantReader.timeAndZone rest
  let instant : Instant := ⟨year, month, day, hour, minute, second, part, offset⟩
  if instant.isValid then some instant else none

end DocQuery
