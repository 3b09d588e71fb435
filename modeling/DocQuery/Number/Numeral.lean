/-
**Texts that denote numbers.**

A numeral consists of a sign or none, digits with or without a point among them or at either end,
and an exponent or none. The digits may be of any script.

* `numeral?`: the number that a numeral denotes;
* `ungrouped?`: digits without the underscores between them;
* `integerText?`, `numberText?`: the integer, or the double precision number, that a text denotes,
  where underscores between digits and white space around the number are allowed. The four
  information separators do not count as white space there. An integer with too many digits is not
  read.
-/

import DocQuery.Number.Binary64
import DocQuery.Text.Case
import DocQuery.Text.Trim

namespace DocQuery

/-- Whether a character is a decimal digit of any script. -/
def isDecimalDigit (c : Char) : Bool := (decimalValue? c).isSome

/-- The number that a sequence of digits denotes. -/
def decimalValue (digits : List Char) : Nat :=
  digits.foldl (fun value c => 10 * value + (decimalValue? c).getD 0) 0

/-- A sign in front of a number: whether it is negative, and what is behind it. -/
def signed (cs : List Char) : Bool × List Char :=
  match cs with
  | '-' :: rest => (true, rest)
  | '+' :: rest => (false, rest)
  | _ => (false, cs)

/-- The integer with a sign and a magnitude. -/
def withSign (negative : Bool) (size : Nat) : Int := if negative then -size else size

/-- The exponent that ends a numeral, and zero where there is none. -/
def scale? (cs : List Char) : Option Int :=
  match cs with
  | [] => some 0
  | mark :: rest =>
    if mark = 'e' ∨ mark = 'E' then
      let (negative, digits) := signed rest
      if digits.isEmpty || !digits.all isDecimalDigit then none
      else some (withSign negative (decimalValue digits))
    else none

/-- The sign and the number that a numeral denotes. -/
def numeral? (cs : List Char) : Option (Bool × Decimal) := do
  let (negative, cs) := signed cs
  let whole := cs.takeWhile isDecimalDigit
  let rest := cs.dropWhile isDecimalDigit
  let decimals := match rest with
    | '.' :: rest => rest.takeWhile isDecimalDigit
    | _ => []
  let rest := match rest with
    | '.' :: rest => rest.dropWhile isDecimalDigit
    | _ => rest
  if whole.isEmpty && decimals.isEmpty then none
  else some (negative, ⟨decimalValue (whole ++ decimals), (← scale? rest) - decimals.length⟩)

/-! ### Numbers with underscores and white space -/

/-- One of the four information separators. -/
def isInformationSeparator (c : Char) : Bool := 0x1C ≤ c.toNat && c.toNat ≤ 0x1F

/-- White space that may stand around a number. -/
def isNumberSpace (c : Char) : Bool := isBlank c && !isInformationSeparator c

/-- The characters without such white space at either end. -/
def trimNumber (cs : List Char) : List Char :=
  dropWhileEnd isNumberSpace (cs.dropWhile isNumberSpace)

/-- Removes the underscores behind a digit or another character. There is no result if one of them
does not stand between two digits. -/
def ungroupedFrom? (afterDigit : Bool) : List Char → Option (List Char)
  | [] => some []
  | '_' :: c :: rest =>
    if afterDigit && isDecimalDigit c then (c :: ·) <$> ungroupedFrom? true rest else none
  | c :: rest => if c = '_' then none else (c :: ·) <$> ungroupedFrom? (isDecimalDigit c) rest

/-- The characters of a number without the underscores between its digits. -/
def ungrouped? (cs : List Char) : Option (List Char) := ungroupedFrom? false cs

/-- The integer that a text denotes. -/
def integerText? (text : String) : Option Int := do
  let (negative, digits) := signed (← ungrouped? (trimNumber text.toList))
  if digits.isEmpty || maxIntegerDigits < digits.length || !digits.all isDecimalDigit then none
  else some (withSign negative (decimalValue digits))

/-- The infinite or undefined number with a name. -/
def namedNumber? (negative : Bool) (name : String) : Option Binary64 :=
  if name = "inf" ∨ name = "infinity" then some (.infinite negative)
  else if name = "nan" then some .nan
  else none

/-- The double precision number that characters without underscores and white space denote. -/
def plainNumber? (cs : List Char) : Option Binary64 :=
  let (negative, name) := signed cs
  match namedNumber? negative (lowerCase (String.ofList name)) with
  | some number => some number
  | none => (numeral? cs).map fun (negative, number) => .ofDecimal negative number

/-- The double precision number that a text denotes. -/
def numberText? (text : String) : Option Binary64 :=
  (ungrouped? (trimNumber text.toList)).bind plainNumber?

end DocQuery
