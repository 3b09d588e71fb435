/-
**Structural equality.**

Arrays are equal element by element and objects field by field, whatever the order of the fields.
Inside them a truth value counts as the number 0 or 1, a whole number and a double precision number
are equal if their values are, and NaN is equal to itself.

* `Json.same`: equality of values inside arrays and objects;
* `Operand.same`: equality of operands.
-/

import DocQuery.Operand.Basic

namespace DocQuery

/-- The order of an integer and a double precision number is that of equal values. -/
def equalInt (n : Int) (x : Binary64) : Bool := x != .nan && Binary64.compareInt n x == .eq

namespace Json

mutual

/-- Whether two values are equal inside an array or an object. -/
def same : Json → Json → Bool
  | .null, .null => true
  | .bool b, .bool c => b == c
  | .bool b, .int n => (b.toNat : Int) == n
  | .bool b, .float x => equalInt b.toNat x
  | .int m, .bool c => m == (c.toNat : Int)
  | .int m, .int n => m == n
  | .int m, .float x => equalInt m x
  | .float x, .bool c => equalInt c.toNat x
  | .float x, .int n => equalInt n x
  | .float x, .float y => x.same y || (x == .nan && y == .nan)
  | .string s, .string t => s == t
  | .array items, .array others => sameItems items others
  | .object fields, .object others => fields.length == others.length && sameFields fields others
  | _, _ => false

/-- Whether two sequences of items are equal one by one. -/
def sameItems : List Json → List Json → Bool
  | [], [] => true
  | item :: more, other :: others => same item other && sameItems more others
  | _, _ => false

/-- Whether every field has an equal one among those of the other object. -/
def sameFields : List (String × Json) → Fields → Bool
  | [], _ => true
  | (name, value) :: more, others =>
    (match Table.get? others name with
      | some other => same value other
      | none => false) && sameFields more others

end

end Json

namespace Operand

/-- Whether two operands are equal. -/
def same : Operand → Operand → Bool
  | .missing, .missing => true
  | .json value, .json other => value.same other
  | .instant value, .instant other => value.moment == other.moment
  | .range lower upper, .range lower' upper' => same lower lower' && same upper upper'
  | _, _ => false

end Operand

end DocQuery
