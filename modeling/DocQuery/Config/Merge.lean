/-
**Merging settings from several sources.**

A source that overrides another one does so value by value: objects on both sides are merged field
by field, and in all other cases the overriding value stands.
-/

import DocQuery.Json.Basic

namespace DocQuery

mutual

/-- A value that overrides another one, if there is one. -/
def mergeValue (base : Option Json) : Json → Json
  | .object fields =>
    match base with
    | some (.object others) => .object (mergeFields others fields)
    | _ => .object fields
  | value => value

/-- Fields with those that override them. New fields stand behind the others. -/
def mergeFields (base : Fields) : List (String × Json) → Fields
  | [] => base
  | (name, value) :: more =>
    mergeFields (base.set name (mergeValue (base.get? name) value)) more

end

end DocQuery
