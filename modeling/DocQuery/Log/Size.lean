/-
**Sizes of files.**

A size is a number of bytes, or a number with one of the units `B`, `KB`, `MB` and `GB` behind it,
each 1024 times the one before it. A number with a unit may have a fraction, and what is left of a
byte is dropped.
-/

import DocQuery.Number.Numeral

namespace DocQuery

/-- Why a text is no size. -/
inductive SizeError where
  | unreadable
  /-- The size is infinite. -/
  | infinite
deriving DecidableEq, Repr

/-- The units, longer ones first, so that the shortest does not stand for another one. -/
def sizeUnits : List (List Char × Nat) :=
  [("GB".toList, 1024 * 1024 * 1024), ("MB".toList, 1024 * 1024), ("KB".toList, 1024),
    ("B".toList, 1)]

/-- The text without a unit at its end. -/
def dropUnit? (unit text : List Char) : Option (List Char) :=
  if unit.length ≤ text.length ∧ text.drop (text.length - unit.length) = unit then
    some (text.take (text.length - unit.length))
  else none

/-- A number of units in bytes, rounded toward zero. -/
def scaledSize (number : Binary64) (scale : Nat) : Except SizeError Int :=
  match number.units? with
  | some units =>
    match (Binary64.ofUnits (decide (units < 0)) (units.natAbs * scale) 1).units? with
    | some scaled => .ok (scaled.tdiv (power 2 1074))
    | none => .error .infinite
  | none => .error (if number = .nan then .unreadable else .infinite)

/-- The size that a text in capital letters denotes. -/
def sizeWithUnit (text : List Char) : List (List Char × Nat) → Except SizeError Int
  | [] =>
    match integerText? (String.ofList text) with
    | some size => .ok size
    | none => .error .unreadable
  | (unit, scale) :: more =>
    match dropUnit? unit text with
    | some digits =>
      match numberText? (String.ofList (trimBlanks digits)) with
      | some number => scaledSize number scale
      | none => .error .unreadable
    | none => sizeWithUnit text more

/-- The size that a text denotes, in bytes. -/
def parseSize (text : String) : Except SizeError Int :=
  sizeWithUnit (trimBlanks (upperCase text).toList) sizeUnits

end DocQuery
