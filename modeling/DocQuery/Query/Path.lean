/-
**Property paths.**

A path is a sequence of names, written with points between them. It leads from a document through
its objects.

* `lookupKey?`: the field of an object with a given name, else the first one whose name differs in
  case only;
* `follow?`: the value at the end of a path;
* `setPath`: sets the value at the end of a path, making objects on the way;
* `stripAlias`: a path without a leading name of the collection.
-/

import DocQuery.Json.Basic
import DocQuery.Text.Case
import DocQuery.Text.Trim

namespace DocQuery

/-- The value of the first field whose name is equal to the key in lower case. -/
def lookupLower? (fields : Fields) (key : String) : Option Json :=
  (fields.find? fun field => lowerCase field.1 == key).map Prod.snd

/-- The value of a field by its exact name, else by a name that differs in case only. -/
def lookupKey? (fields : Fields) (key : String) : Option Json :=
  (Table.get? fields key).or (lookupLower? fields (lowerCase key))

/-- The names of a path. -/
def pathSegments (path : String) : List String := splitOn '.' path

/-- The value at the end of a path. -/
def follow? (value : Json) (segments : List String) : Option Json :=
  match segments with
  | [] => some value
  | segment :: more =>
    match value with
    | .object fields => (lookupKey? fields segment).bind fun child => follow? child more
    | _ => none

/-- The fields of an object that is the value of a field, and none if it is another value. -/
def childFields (fields : Fields) (segment : String) : Fields :=
  match fields.get? segment with
  | some (.object child) => child
  | _ => []

/-- Sets the value at the end of a path that begins with `segment`. A value on the way that is no
object is replaced by one. -/
def setPath (fields : Fields) (segment : String) (more : List String) (value : Json) : Fields :=
  match more with
  | [] => fields.set segment value
  | next :: more =>
    fields.set segment (.object (setPath (childFields fields segment) next more value))

/-- A path of several names without the first one, if that one is an alias of the collection. -/
def stripAlias (aliases segments : List String) : List String :=
  match segments with
  | first :: next :: more => if aliases.contains first then next :: more else segments
  | _ => segments

/-! ### Identifiers of documents -/

/-- The value of the field `id`, else of the field `Id`, that is not null. -/
def identifierValue? (fields : Fields) : Option Json :=
  match fields.get? "id" with
  | some .null | none =>
    match fields.get? "Id" with
    | some .null | none => none
    | some value => some value
  | some value => some value

end DocQuery
