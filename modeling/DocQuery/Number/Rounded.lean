/-
**Numbers with a given number of digits.**

* `fixedText`: a number with so many digits behind the point;
* `scientificText`: one digit before the point, so many behind it, and an exponent;
* `generalText`: so many digits in all, without the zeros at the end, and an exponent only where the
  point is far from the digits.

All of them are rounded to the nearest such number, in a tie to the one with an even last digit.
-/

import DocQuery.Number.Shortest

namespace DocQuery

/-- How many units of the binary format make one. -/
def unitsPerOne : Nat := power 2 1074

/-! ### Rounding to digits -/

/-- The decimal exponent of the first digit of a magnitude that is not zero. -/
def leadingExponent (units : Nat) : Int :=
  if unitsPerOne ≤ units then digitCount (units / unitsPerOne) - 1
  else
    let below := digitCount (unitsPerOne / units) - 1
    if unitsPerOne ≤ units * power 10 below then -below else -(below + 1)

/-- A magnitude in steps of a power of ten, rounded. -/
def roundedTo (exponent : Int) (units : Nat) : Nat :=
  if 0 ≤ exponent then divideRounded units (unitsPerOne * power 10 exponent.toNat)
  else divideRounded (units * power 10 (-exponent).toNat) unitsPerOne

/-- So many digits of a magnitude, and the decimal exponent of the first one. -/
def significantDigits (count units : Nat) : List Char × Int :=
  if units = 0 then (List.replicate count '0', 0)
  else
    let lead := leadingExponent units
    let digits := digitChars (roundedTo (lead - (count - 1)) units)
    if digits.length ≤ count then (digits, lead) else (digits.take count, lead + 1)

/-! ### Texts of magnitudes -/

/-- Digits before and behind a point, which is left out if nothing is behind it unless it is asked
for. -/
def pointed (keepPoint : Bool) (whole decimals : List Char) : List Char :=
  if decimals.isEmpty && !keepPoint then whole else whole ++ '.' :: decimals

/-- A magnitude with so many digits behind the point. -/
def fixedDigits (keepPoint : Bool) (places units : Nat) : List Char :=
  let digits := digitChars (roundedTo (-places) units)
  let all := List.replicate (places + 1 - digits.length) '0' ++ digits
  pointed keepPoint (all.take (all.length - places)) (all.drop (all.length - places))

/-- A decimal exponent with its sign and at least two digits. -/
def exponentText (exponent : Int) : List Char :=
  let size := digitChars exponent.natAbs
  ['e', if exponent < 0 then '-' else '+'] ++ (if size.length < 2 then '0' :: size else size)

/-- A magnitude with one digit before the point, so many behind it, and an exponent. -/
def scientificDigits (keepPoint : Bool) (places units : Nat) : List Char :=
  let (digits, exponent) := significantDigits (places + 1) units
  pointed keepPoint (digits.take 1) (digits.drop 1) ++ exponentText exponent

/-- Digits without zeros at the end. -/
def withoutEndZeros (digits : List Char) : List Char :=
  (digits.reverse.dropWhile (· == '0')).reverse

/-- A magnitude with so many digits. Zeros at the end of a fraction are kept if they are asked
for. -/
def generalDigits (keepZeros : Bool) (count units : Nat) : List Char :=
  let count := max 1 count
  let (digits, exponent) := significantDigits count units
  let cut (decimals : List Char) := if keepZeros then decimals else withoutEndZeros decimals
  if exponent < -4 ∨ (count : Int) ≤ exponent then
    pointed keepZeros (digits.take 1) (cut (digits.drop 1)) ++ exponentText exponent
  else if exponent < 0 then
    pointed keepZeros ['0'] (cut (List.replicate (-exponent - 1).toNat '0' ++ digits))
  else
    pointed keepZeros (digits.take (exponent.toNat + 1)) (cut (digits.drop (exponent.toNat + 1)))

/-! ### Texts of numbers -/

namespace Binary64

/-- A number with its magnitude written in a given way. -/
def textBy (write : Nat → List Char) : Binary64 → String
  | .nan => "nan"
  | .infinite negative => signText negative ++ "inf"
  | .finite negative units _ => signText negative ++ String.ofList (write units)

/-- A number with so many digits behind the point. -/
def fixedText (keepPoint : Bool) (places : Nat) : Binary64 → String :=
  textBy (fixedDigits keepPoint places)

/-- A number with one digit before the point, so many behind it, and an exponent. -/
def scientificText (keepPoint : Bool) (places : Nat) : Binary64 → String :=
  textBy (scientificDigits keepPoint places)

/-- A number with so many digits. -/
def generalText (keepZeros : Bool) (count : Nat) : Binary64 → String :=
  textBy (generalDigits keepZeros count)

end Binary64

end DocQuery
