/-
**The order of operands.**

`compareOperands` orders any two operands: absent ones first, then numbers by value, texts by code
points, truth values and instants among themselves, and everything else by its text.
-/

import DocQuery.Operand.Basic

namespace DocQuery

/-- The order of two sequences of characters, by the first difference. -/
def compareChars : List Char → List Char → Ordering
  | [], [] => .eq
  | [], _ :: _ => .lt
  | _ :: _, [] => .gt
  | c :: cs, d :: ds => (compare c.toNat d.toNat).then (compareChars cs ds)

/-- The order of two texts by code points. -/
def compareTexts (left right : String) : Ordering := compareChars left.toList right.toList

/-- The order of two numbers, taken exactly, and none if one of the values is no number. -/
def compareNumbers? : Operand → Operand → Option Ordering
  | .json (.int m), .json (.int n) => some (compare m n)
  | .json (.int m), .json (.float y) => some (Binary64.compareInt m y)
  | .json (.float x), .json (.int n) => some (Binary64.compareInt n x).swap
  | .json (.float x), .json (.float y) => some (x.compareWith y)
  | _, _ => none

/-- The order of two operands. -/
def compareOperands (left right : Operand) : Ordering :=
  match left.isAbsent, right.isAbsent with
  | true, true => .eq
  | true, false => .lt
  | false, true => .gt
  | false, false =>
    match compareNumbers? left right with
    | some order => order
    | none =>
      match left, right with
      | .json (.string s), .json (.string t) => compareTexts s t
      | .json (.bool b), .json (.bool c) => compare b.toNat c.toNat
      | .instant s, .instant t => compare s.moment t.moment
      | _, _ => compareTexts (left.toText?.getD "") (right.toText?.getD "")

end DocQuery
