/-
**JSON values.**

Whole numbers have any size and are distinct from double precision numbers, so that `1` and `1.0`
are different values. The fields of an object form a table, in the order in which they were added.

* `Json.field?`: a field of an object;
* `Json.isEmptyLike`: whether a value counts as empty.
-/

import DocQuery.Number.Shortest
import DocQuery.Table

namespace DocQuery

/-- A JSON value. -/
inductive Json where
  | null
  | bool (value : Bool)
  | int (value : Int)
  | float (value : Binary64)
  | string (value : String)
  | array (items : List Json)
  | object (fields : List (String × Json))

instance : Inhabited Json := ⟨.null⟩

/-- The fields of an object in their order. -/
abbrev Fields := Table Json

namespace Json

/-- Whether a value is an object. -/
def isObject : Json → Bool
  | .object _ => true
  | _ => false

/-- The value of a field of an object. -/
def field? (value : Json) (key : String) : Option Json :=
  match value with
  | .object fields => Table.get? fields key
  | _ => none

/-- Whether a value counts as empty: null, false, zero, or a text or collection without elements. -/
def isEmptyLike : Json → Bool
  | .null => true
  | .bool value => !value
  | .int value => value == 0
  | .float value => value.same (.zero false)
  | .string value => value.isEmpty
  | .array items => items.isEmpty
  | .object fields => fields.isEmpty

end Json

end DocQuery
