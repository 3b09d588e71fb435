/-
**What an expression means for a document.**

An expression has an operand, where it is a part of a comparison or an argument, and a truth, where
it is a condition. For most expressions one follows from the other; a range test has its two bounds
as its operand.

* `Scope`: what an expression refers to besides the document;
* `Scope.property`: the value at the end of a path, missing if there is none;
* `meaning`: the operand and the truth of an expression;
* `holds`: whether a document satisfies a condition.

Missing properties and parameters without a value are no failure: they are missing operands.
-/

import DocQuery.Operand.Comparison
import DocQuery.Operand.Function
import DocQuery.Operand.Logic
import DocQuery.Query.Path
import DocQuery.Query.Tree

namespace DocQuery

/-- What an expression refers to besides the document. -/
structure Scope where
  comparison : Comparison
  registry : Registry
  aliases : List String
  parameters : Fields

/-- The names that stand for the collection: those that always do, and that of the query's own
source. -/
def knownAliases (implicitAliases : List String) (source : Option Source) : List String :=
  implicitAliases ++ (source.map Source.reference).toList

/-- The value at the end of a path through a JSON value. The path `*` leads nowhere. -/
def valueAt? (aliases : List String) (value : Json) (path : String) : Option Json :=
  if path = "*" then some value else follow? value (stripAlias aliases (pathSegments path))

/-- The value at the end of a path through a document. -/
def propertyOf (aliases : List String) (document : Operand) (path : String) : Operand :=
  match document with
  | .json value =>
    match valueAt? aliases value path with
    | some found => .json found
    | none => .missing
  | _ => if path = "*" then document else .missing

/-- The value of a parameter. -/
def parameterOf (parameters : Fields) (name : String) : Operand :=
  match parameters.get? name with
  | some value => .json value
  | none => .missing

/-! ### Meanings -/

/-- What an expression means. -/
structure Meaning where
  operand : Except EvaluationError Operand
  truth : Except EvaluationError Bool

namespace Meaning

/-- The meaning of an expression that is a value. As a condition it holds if the value does. -/
def ofOperand (operand : Operand) : Meaning := ⟨.ok operand, .ok operand.isTrue⟩

/-- The meaning of an expression that is a condition. -/
def ofTruth (truth : Except EvaluationError Bool) : Meaning :=
  ⟨truth.map fun holds => .json (.bool holds), truth⟩

/-- The meaning of an expression that has none. -/
def failure (cause : EvaluationError) : Meaning := ⟨.error cause, .error cause⟩

end Meaning

/-- Whether a value lies between two others, which are the elements of the bounds. -/
def withinBounds (value bounds : Operand) : Except EvaluationError Bool :=
  match bounds.elements? with
  | some [lower, upper] => Comparison.between value lower upper
  | _ => .error .rangeBounds

/-- The truth of an operator between two expressions. -/
def binaryTruth (comparison : Comparison) (operator : Operator) (left right : Meaning) :
    Except EvaluationError Bool :=
  match operator with
  | .and => conjunction left.truth right.truth
  | .or => disjunction left.truth right.truth
  | operator => do
    let leftValue ← left.operand
    let rightValue ← right.operand
    if operator = .between then withinBounds leftValue rightValue
    else
      (comparison.compare? operator leftValue rightValue).getD (.error (.notBinary operator.symbol))

/-- The negation of a value. An absent one is not true either when it is negated. -/
def negatedValue (operand : Operand) (text : String) : Except EvaluationError Bool :=
  match operand with
  | .json (.bool value) => .ok !value
  | operand => if operand.isAbsent then .ok false else .error (.notBoolean operand.kind text)

/-- The truth of an operator before an expression. -/
def unaryTruth (operator : Operator) (operand : Expr) (meant : Meaning) :
    Except EvaluationError Bool :=
  match operator with
  | .not =>
    match operand with
    | .constant .. | .property .. | .parameter .. => do negatedValue (← meant.operand) operand.text
    | _ => not <$> meant.truth
  | operator => .error (.notUnary operator.symbol)

mutual

/-- The meaning of an expression for a document. -/
def meaning (scope : Scope) (document : Operand) : Expr → Meaning
  | .constant value _ => .ofOperand value
  | .property path _ => .ofOperand (propertyOf scope.aliases document path)
  | .parameter name _ => .ofOperand (parameterOf scope.parameters name)
  | .binary left operator right _ =>
    .ofTruth (binaryTruth scope.comparison operator (meaning scope document left)
      (meaning scope document right))
  | .unary operator operand _ =>
    .ofTruth (unaryTruth operator operand (meaning scope document operand))
  | .call name arguments _ =>
    .ofTruth (do scope.registry.call name (← argumentValues scope document arguments))
  | .between value lower upper _ =>
    let bounds : Except EvaluationError Operand := do
      return .pair (← (meaning scope document lower).operand)
        (← (meaning scope document upper).operand)
    ⟨bounds, do withinBounds (← (meaning scope document value).operand) (← bounds)⟩
  | .everything => .failure (.notCondition "SelectAllItem")

/-- The operands of the arguments of a call. -/
def argumentValues (scope : Scope) (document : Operand) :
    List Expr → Except EvaluationError (List Operand)
  | [] => .ok []
  | argument :: more => do
    return (← (meaning scope document argument).operand) ::
      (← argumentValues scope document more)

end

/-- Whether a document satisfies a condition. -/
def holds (scope : Scope) (condition : Expr) (document : Operand) : Except EvaluationError Bool :=
  (meaning scope document condition).truth

end DocQuery
