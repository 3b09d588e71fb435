/-
**What the program reads from texts.**

* `readDocuments`: the documents that a file holds, as one JSON value or as one value to a line;
* `readParameter`: the parameter that is written as a name, an equals sign and a value. A value that
  is no JSON stands for itself.
-/

import DocQuery.Json.Reader
import DocQuery.Shell.Usage

namespace DocQuery

/-! ### Documents -/

/-- The fields of a value that is an object. -/
def Json.object? : Json → Option Fields
  | .object fields => some fields
  | _ => none

/-- The documents that a value holds: the objects of a list, or a single object. -/
def documentsOf? : Json → Option (List Fields)
  | .object fields => some [fields]
  | .array items => items.mapM Json.object?
  | _ => none

/-- The values in the lines of a text that are not blank. -/
def lineValues? (text : String) : Option (List Json) :=
  ((splitLines text).filter fun line => !(trim line).isEmpty).mapM Json.parse?

/-- The value of a text: the one that it holds as a whole, or the list of those in its lines. -/
def fileValue? (text : String) : Option Json :=
  match Json.parse? text with
  | some value => some value
  | none => (lineValues? text).map .array

/-- The documents that a file with the given text holds. -/
def readDocuments (text : String) : Except UsageError (List Fields) :=
  match fileValue? text with
  | none => .error .dataUnreadable
  | some value =>
    match documentsOf? value with
    | none => .error .dataNotObjects
    | some documents => .ok documents

/-! ### Parameters -/

/-- The value that a text stands for. -/
def textOrJson (text : String) : Json := (Json.parse? text).getD (.string text)

/-- The name and the value of a parameter. -/
def readParameter (given : String) : Except UsageError (String × Json) :=
  let cs := given.toList
  match cs.dropWhile (· != '=') with
  | [] => .error (.parameterForm given)
  | _ :: value =>
    let name := trimBlanks (cs.takeWhile (· != '='))
    if name.all (· == '@') then .error (.parameterNameless given)
    else .ok (String.ofList name, textOrJson (String.ofList value))

end DocQuery
