/-
**Operands of conditions, and what they count as.**

An operand is the value of a part of a condition. Beyond JSON values it may be missing, an instant,
or the two bounds of a range, of which at least one is not a JSON value.

* `Operand.toNumber?`, `toBool?`, `toText?`, `toInstant?`: the value that an operand counts as where
  a number, a truth value, a text or an instant is wanted;
* `Operand.isAbsent`: null and missing are absent;
* `Operand.isTrue`: a condition that is only a value holds unless it is false or absent.
-/

import DocQuery.Json.Printer
import DocQuery.Operand.Numeral
import DocQuery.Text.Case
import DocQuery.Text.Quoted
import DocQuery.Time.Reader

namespace DocQuery

/-- The value of a part of a condition. -/
inductive Operand where
  | missing
  | json (value : Json)
  | instant (value : Instant)
  | range (lower upper : Operand)

instance : Inhabited Operand := ⟨.missing⟩

namespace Operand

/-- The operand with two bounds as its elements. -/
def pair : Operand → Operand → Operand
  | .json lower, .json upper => .json (.array [lower, upper])
  | lower, upper => .range lower upper

/-- The elements of an array or of a pair of bounds. -/
def elements? : Operand → Option (List Operand)
  | .json (.array items) => some (items.map .json)
  | .range lower upper => some [lower, upper]
  | _ => none

/-- Whether an operand is missing. -/
def isMissing : Operand → Bool
  | .missing => true
  | _ => false

/-- Whether an operand is missing or null. -/
def isAbsent : Operand → Bool
  | .missing | .json .null => true
  | _ => false

/-- Whether an operand is a text. -/
def isString : Operand → Bool
  | .json (.string _) => true
  | _ => false

/-- Whether an operand is a truth value. -/
def isBool : Operand → Bool
  | .json (.bool _) => true
  | _ => false

/-- Whether an operand is a number, and not only a text that denotes one. -/
def isNumber : Operand → Bool
  | .json (.int _) | .json (.float _) => true
  | _ => false

/-- Whether a condition that is only this value holds. -/
def isTrue : Operand → Bool
  | .json (.bool value) => value
  | operand => !operand.isAbsent

/-- The name of the type of an operand. -/
def kind : Operand → String
  | .missing => "_MissingType"
  | .json .null => "NoneType"
  | .json (.bool _) => "bool"
  | .json (.int _) => "int"
  | .json (.float _) => "float"
  | .json (.string _) => "str"
  | .json (.array _) | .range .. => "list"
  | .json (.object _) => "dict"
  | .instant _ => "datetime"

/-! ### Coercions -/

/-- The number that an operand counts as: its own value, or the one that a text denotes. -/
def toNumber? : Operand → Except EvaluationError (Option Binary64)
  | .json (.int value) => .ok (some (.ofInt value))
  | .json (.float value) => .ok (some value)
  | .json (.string text) => textNumber? text
  | _ => .ok none

/-- The truth value that an operand counts as: its own value, or the one that a text names in any
case and with any white space around it. -/
def toBool? : Operand → Option Bool
  | .json (.bool value) => some value
  | .json (.string text) =>
    let word := lowerCase (trim text)
    if word = "true" then some true else if word = "false" then some false else none
  | _ => none

/-- The text of an element of a pair of bounds. -/
def elementText : Operand → String
  | .missing => "\"MISSING\""
  | .json value => value.compact
  | .instant value => quoteJson value.plainText
  | .range lower upper => "[" ++ elementText lower ++ "," ++ elementText upper ++ "]"

/-- The text of an operand, and none if it is absent. -/
def toText? : Operand → Option String
  | .missing | .json .null => none
  | .json (.string text) => some text
  | .json (.float value) => some value.text
  | .json value => some value.compact
  | .instant value => some value.isoText
  | .range lower upper => some (elementText (.range lower upper))

/-- The instant that an operand counts as. -/
def toInstant? : Operand → Option Instant
  | .instant value => some value
  | .json (.string text) => Instant.parse? text
  | _ => none

end Operand

end DocQuery
