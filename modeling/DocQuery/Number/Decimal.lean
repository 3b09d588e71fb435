/-
**Decimal numbers and their texts.**

A decimal number is a coefficient and a power of ten.

* `digitCount`: how many digits a number has, estimated from its binary length and corrected;
* `Decimal.normalize`: the same number without trailing zeros in the coefficient;
* `Decimal.positional`: digits and a point, without an exponent and always with a fraction;
* `Decimal.scientific`: one digit, the others behind a point, and an exponent of two digits or more;
* `Decimal.compact`: positional for decimal exponents from -4 to 15, scientific otherwise.
-/

import DocQuery.Number.Power

namespace DocQuery

/-- A non-negative number: `coefficient * 10 ^ exponent`. -/
structure Decimal where
  coefficient : Nat
  exponent : Int
deriving DecidableEq, Repr

/-- The most digits that an integer in a text may have. -/
def maxIntegerDigits : Nat := 4300

/-- The decimal digits of a number as characters, `0` for zero. -/
def digitChars (n : Nat) : List Char := Nat.toDigits 10 n

/-- The number of decimal digits of `n`. The estimate is the number of digits less one or two,
since `1233 / 4096` is just below the decimal logarithm of 2. -/
def digitCount (n : Nat) : Nat :=
  let estimate := n.log2 * 1233 / 4096
  if n < power 10 (estimate + 1) then estimate + 1 else estimate + 2

/-- Moves trailing zeros of the coefficient into the exponent, at most `fuel` of them. -/
def stripZeros : Nat → Nat → Int → Decimal
  | 0, coefficient, exponent => ⟨coefficient, exponent⟩
  | fuel + 1, coefficient, exponent =>
    if coefficient % 10 = 0 then stripZeros fuel (coefficient / 10) (exponent + 1)
    else ⟨coefficient, exponent⟩

/-- The same number with a coefficient that does not end in zero, and zero as `0 * 10 ^ 0`. -/
def Decimal.normalize (d : Decimal) : Decimal :=
  if d.coefficient = 0 then ⟨0, 0⟩
  else stripZeros (digitCount d.coefficient) d.coefficient d.exponent

/-- Digits with a point behind the first `count` of them, which may be none or more than all. -/
def placePoint (digits : List Char) (count : Int) : List Char :=
  if count ≤ 0 then ['0', '.'] ++ List.replicate (-count).toNat '0' ++ digits
  else if digits.length ≤ count.toNat then
    digits ++ List.replicate (count.toNat - digits.length) '0' ++ ['.', '0']
  else digits.take count.toNat ++ ['.'] ++ digits.drop count.toNat

/-- The digits with a point and no exponent. A whole number ends in `.0`. -/
def Decimal.positional (d : Decimal) : String :=
  let digits := digitChars d.normalize.coefficient
  String.ofList (placePoint digits (digits.length + d.normalize.exponent))

/-- One digit before the point, no point if there are no others, and a signed exponent. -/
def Decimal.scientific (d : Decimal) : String :=
  let digits := digitChars d.normalize.coefficient
  let exponent : Int := d.normalize.exponent + digits.length - 1
  let size := digitChars exponent.natAbs
  let fraction := digits.drop 1
  String.ofList (digits.take 1 ++ (if fraction.isEmpty then [] else '.' :: fraction) ++
    ['e', if exponent < 0 then '-' else '+'] ++
    (if size.length < 2 then '0' :: size else size))

/-- Positional from `0.0001` up to sixteen digits before the point, scientific outside. -/
def Decimal.compact (d : Decimal) : String :=
  let point : Int := digitCount d.normalize.coefficient + d.normalize.exponent
  if -4 < point ∧ point ≤ 16 then d.positional else d.scientific

end DocQuery
