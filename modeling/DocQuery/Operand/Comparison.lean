/-
**Comparisons.**

A comparison is evaluated under two settings: the tolerance within which numbers count as equal, and
the order of operands that are not both numbers.

* `Comparison.equal`: equality of texts, else of numbers within the tolerance, else of truth values,
  else structural equality. Nothing equals a missing operand;
* `Comparison.ordering`: an order of operands, and none if one is missing;
* `Comparison.between`: the test whether an operand lies in a range, bounds included.
-/

import DocQuery.Operand.Compare
import DocQuery.Operand.Equality

namespace DocQuery

/-- The settings of comparisons. -/
structure Comparison where
  tolerance : Binary64
  order : Operand → Operand → Ordering

namespace Comparison

/-- Whether two numbers are equal within the tolerance. -/
def equalNumbers (settings : Comparison) (x y : Binary64) : Bool :=
  x.same y || (x.distance y).le settings.tolerance

/-- Equality of operands that are not both numbers. -/
def equalOthers (left right : Operand) : Bool :=
  match left.toBool?, right.toBool? with
  | some b, some c => b == c
  | _, _ => left.isBool == right.isBool && left.same right

/-- Whether two operands are equal. -/
def equal (settings : Comparison) (left right : Operand) : Except EvaluationError Bool :=
  match left, right with
  | .missing, _ | _, .missing => .ok false
  | .json (.string s), .json (.string t) => .ok (s == t)
  | _, _ => do
    match ← left.toNumber?, ← right.toNumber? with
    | some x, some y => return settings.equalNumbers x y
    | _, _ => return equalOthers left right

/-- The order of two operands by which the ordering operators decide. -/
def ordering (settings : Comparison) (left right : Operand) :
    Except EvaluationError (Option Ordering) :=
  if left.isMissing || right.isMissing then .ok none
  else do
    match ← left.toNumber?, ← right.toNumber? with
    | some x, some y => return some (x.compareWith y)
    | _, _ => return some (settings.order left right)

/-- Whether an operand lies between two others. Numbers are compared if all three are numbers, else
instants, else texts. -/
def between (value lower upper : Operand) : Except EvaluationError Bool :=
  if value.isAbsent || lower.isAbsent || upper.isAbsent then .ok false
  else do
    match ← value.toNumber?, ← lower.toNumber?, ← upper.toNumber? with
    | some x, some low, some high => return low.le x && x.le high
    | _, _, _ =>
      match value.toInstant?, lower.toInstant?, upper.toInstant? with
      | some t, some first, some last =>
        return decide (first.moment ≤ t.moment) && decide (t.moment ≤ last.moment)
      | _, _, _ =>
        let text (operand : Operand) := operand.toText?.getD ""
        return compareTexts (text lower) (text value) != .gt &&
          compareTexts (text value) (text upper) != .gt

/-- The result of an operator that compares two operands, and none for the other operators. -/
def compare? (settings : Comparison) (operator : Operator) (left right : Operand) :
    Option (Except EvaluationError Bool) :=
  let ordered (accepts : Ordering → Bool) : Except EvaluationError Bool := do
    return ((← settings.ordering left right).map accepts).getD false
  match operator with
  | .equal => some (settings.equal left right)
  | .notEqual => some (not <$> settings.equal left right)
  | .greater => some (ordered (· == .gt))
  | .less => some (ordered (· == .lt))
  | .greaterOrEqual => some (ordered (· != .lt))
  | .lessOrEqual => some (ordered (· != .gt))
  | _ => none

end Comparison

/-- The tolerance that holds unless another one is set: one millionth. -/
def defaultTolerance : Binary64 := .ofDecimal false ⟨1, -6⟩

end DocQuery
