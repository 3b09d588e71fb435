/-
**Documents as they are stored.**

A stored document consists of the properties that its author gave it and of five system properties
that the store adds behind them.

* `documentId?`: the identifier of a document as a text;
* `prepare`: a submitted document without system properties and with an `id`;
* `stamp`: a prepared document with the system properties.
-/

import DocQuery.Operand.Basic
import DocQuery.Query.Path

namespace DocQuery

/-- The identifier of a document as a text. -/
def documentId? (document : Fields) : Option String :=
  (identifierValue? document).bind fun value => (Operand.json value).toText?

/-- The names of the system properties. -/
def systemProperties : List String := ["_rid", "_ts", "_self", "_etag", "_attachments"]

/-- A document without system properties. -/
def userFields (document : Fields) : Fields :=
  document.filter fun field => !systemProperties.contains field.1

/-- Why a submitted document is refused. -/
inductive DocumentFault where
  | notObject
  | unidentified
deriving DecidableEq, Repr

/-- The message of a refusal. -/
def DocumentFault.message : DocumentFault → String
  | .notObject => "Document must be a JSON object"
  | .unidentified => "Document must have an 'id' or 'Id' property"

/-- A document whose `id` is not null, given the identifier that it has. -/
def withIdField (document : Fields) (identifier : Json) : Fields :=
  match document.get? "id" with
  | some .null | none => document.set "id" identifier
  | some _ => document

/-- A submitted document with its identifier, ready to be stamped. -/
def prepare : Json → Except DocumentFault (String × Fields)
  | .object fields =>
    let document := userFields fields
    match identifierValue? document, documentId? document with
    | some identifier, some id =>
      if id.isEmpty then .error .unidentified else .ok (id, withIdField document identifier)
    | _, _ => .error .unidentified
  | _ => .error .notObject

/-- The system properties of a document in a container. -/
def systemFields (container rid etag : String) (now : Int) : Fields :=
  [("_rid", .string rid), ("_ts", .int now), ("_self", .string (container ++ "/docs/" ++ rid)),
    ("_etag", .string etag), ("_attachments", .string "attachments/")]

/-- A document with its system properties behind its own ones. -/
def stamp (container rid etag : String) (now : Int) (document : Fields) : Fields :=
  document.setAll (systemFields container rid etag now)

/-- The identifier that the store gave to a document. -/
def storedRid? (document : Fields) : Option String :=
  match document.get? "_rid" with
  | some (.string rid) => some rid
  | _ => none

end DocQuery
