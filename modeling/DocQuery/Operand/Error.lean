/-
**Failures of an evaluation.**

A condition that meets a missing property, a null or a value of another type is not in error: it is
false. What is left are the causes in `EvaluationError`, each with its message.
-/

namespace DocQuery

/-- The operators of a condition. -/
inductive Operator where
  | equal
  | notEqual
  | greater
  | less
  | greaterOrEqual
  | lessOrEqual
  | and
  | or
  | between
  | not
deriving DecidableEq, Repr

/-- How an operator is written. -/
def Operator.symbol : Operator → String
  | .equal => "="
  | .notEqual => "!="
  | .greater => ">"
  | .less => "<"
  | .greaterOrEqual => ">="
  | .lessOrEqual => "<="
  | .and => "AND"
  | .or => "OR"
  | .between => "BETWEEN"
  | .not => "NOT"

/-- How many arguments a function takes. -/
structure Arity where
  least : Nat
  most : Nat
deriving DecidableEq, Repr

namespace Arity

/-- Whether a number of arguments is allowed. -/
def accepts (arity : Arity) (count : Nat) : Bool := arity.least ≤ count && count ≤ arity.most

/-- How an arity is written. -/
def text (arity : Arity) : String :=
  if arity.least = arity.most then "(" ++ toString arity.least ++ " args)"
  else "(" ++ toString arity.least ++ "-" ++ toString arity.most ++ " args)"

end Arity

/-- Why a condition has no value. -/
inductive EvaluationError where
  /-- A negated operand is neither a truth value nor absent. `kind` names its type. -/
  | notBoolean (kind operand : String)
  /-- The name of a called function is not registered. -/
  | unknownFunction (name : String)
  /-- A function is called with a number of arguments that its arity excludes. `title` is the name
  under which it is registered. -/
  | argumentCount (name title : String) (arity : Arity) (count : Nat)
  /-- A function is registered with an arity that its implementation does not support. -/
  | unsupportedArguments (name : String)
  /-- What stands between two operands is no operator for two operands. -/
  | notBinary (symbol : String)
  /-- What stands before an operand is no operator for one operand. -/
  | notUnary (symbol : String)
  /-- The bounds of a range are not two values. -/
  | rangeBounds
  /-- A node of the tree is no condition. -/
  | notCondition (kind : String)
  /-- A text has the form of a number, but the separators around it are not space. -/
  | unreadableNumber (text : String)
deriving DecidableEq, Repr

/-- The message of a failure. -/
def EvaluationError.message : EvaluationError → String
  | .notBoolean kind operand =>
    "NOT requires a boolean operand, got " ++ kind ++ " from " ++ operand
  | .unknownFunction name => "Unsupported function: " ++ name
  | .argumentCount _ title arity count =>
    "Function '" ++ title ++ "' expects " ++ arity.text ++ ", got " ++ toString count
  | .unsupportedArguments name => "Function '" ++ name ++ "' does not take these arguments"
  | .notBinary symbol => "Unsupported operator: " ++ symbol
  | .notUnary symbol => "Unsupported unary operator: " ++ symbol
  | .rangeBounds => "BETWEEN requires a lower and an upper bound"
  | .notCondition kind => "Unsupported expression: " ++ kind
  | .unreadableNumber text => "Not a number: " ++ text

end DocQuery
