/-
**Parameters of queries.**

Parameters are given as an object from names to values, or as a sequence of entries. An entry is an
object with a `name` and a `value`, or a pair. A name may begin with `@`, which does not belong to
it.

* `parameterEntries`: the names and values as they are given;
* `bindParameters`: the values by name. Of two values for one name the later one holds.
-/

import DocQuery.Json.Basic
import DocQuery.Text.Quoted

namespace DocQuery

/-- Why parameters are refused. -/
inductive ParameterError where
  /-- An entry has no field `name`. -/
  | unnamed (entry : Json)
  /-- A name is not a text, or nothing but `@`. -/
  | invalidName (name : Json)
  /-- An entry does not consist of two parts. -/
  | notPair
  /-- The parameters, or an entry of them, have no parts at all. -/
  | notIterable

/-- The message of a refusal. -/
def ParameterError.message : ParameterError → String
  | .unnamed entry => "Query parameter is missing a name: " ++ entry.shown
  | .invalidName name => "Invalid query parameter name: " ++ name.shown
  | .notPair => "A query parameter is a name and a value"
  | .notIterable => "Query parameters are entries"

/-- The name and the value that an entry of a sequence gives. -/
def parameterEntry : Json → Except ParameterError (Json × Json)
  | .object fields =>
    match Table.get? fields "name" with
    | some name => .ok (name, (Table.get? fields "value").getD .null)
    | none => .error (.unnamed (.object fields))
  | .array [name, value] => .ok (name, value)
  | .array _ => .error .notPair
  | .string text =>
    match text.toList with
    | [name, value] => .ok (.string name.toString, .string value.toString)
    | _ => .error .notPair
  | _ => .error .notIterable

/-- The names and values of parameters. -/
def parameterEntries (given : Json) : Except ParameterError (List (Json × Json)) :=
  if given.isEmptyLike then .ok []
  else
    match given with
    | .object fields => .ok (fields.map fun field => (.string field.1, field.2))
    | .array entries => entries.mapM parameterEntry
    | .string _ => .error .notPair
    | _ => .error .notIterable

/-- The name of a parameter without the sign in front of it. -/
def parameterName : Json → Except ParameterError String
  | .string name =>
    if name.toList.all (· == '@') then .error (.invalidName (.string name))
    else
      match name.toList with
      | '@' :: rest => .ok (String.ofList rest)
      | _ => .ok name
  | name => .error (.invalidName name)

/-- Adds parameters to those that are bound. -/
def bindAll (bound : Fields) : List (Json × Json) → Except ParameterError Fields
  | [] => .ok bound
  | (name, value) :: more => do bindAll (bound.set (← parameterName name) value) more

/-- The values of parameters by their names. -/
def bindParameters (given : Json) : Except ParameterError Fields := do
  bindAll [] (← parameterEntries given)

end DocQuery
