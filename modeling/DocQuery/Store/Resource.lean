/-
**Databases and containers as resources.**

A resource has an identifier that its creator chose and properties that the store gave it. The
latter have short names of their own, and names with an underscore outside.

* `ResourceKind`: a database or a container, and what tells them apart;
* `resourceId`: the check of an identifier;
* `Resource.check`, `Resource.toJson`: reading and writing a resource;
* `Resource.create`: a new resource with links to itself and to what it holds.
-/

import DocQuery.Schema.Check
import DocQuery.Text.CharClass

namespace DocQuery

/-- Which names of the fields a value is written with. -/
inductive Naming where
  | own
  | wire
deriving DecidableEq, Repr

/-- The name of a field. -/
def Label.key (label : Label) : Naming → String
  | .own => label.name
  | .wire => label.wire

/-! ### Kinds and identifiers -/

/-- The kinds of resources. -/
inductive ResourceKind where
  | database
  | container
deriving DecidableEq, Repr

namespace ResourceKind

/-- The name of a kind in messages. -/
def title : ResourceKind → String
  | .database => "Database"
  | .container => "Container"

/-- The folder that holds the resources of a kind. -/
def folder : ResourceKind → String
  | .database => "dbs"
  | .container => "colls"

/-- The folder that a resource of a kind has for what it holds. -/
def inside : ResourceKind → String
  | .database => "colls"
  | .container => "docs"

/-- The field with the link to what a resource holds. -/
def insideLabel (kind : ResourceKind) : Label := ⟨kind.inside, "_" ++ kind.inside⟩

end ResourceKind

/-- A character that may occur in an identifier. -/
def isIdentifierChar (c : Char) : Bool := isAlphanumeric c || c == '_' || c == '-'

/-- The identifier of a resource: a text of 1 to 255 letters, numerals, underscores and hyphens. -/
def resourceId (kind : ResourceKind) : Check String
  | .string id =>
    if id.isEmpty then .refuse (.refused (kind.title ++ " ID cannot be empty"))
    else if 255 < id.length then
      .refuse (.refused (kind.title ++ " ID must be 255 characters or less"))
    else if id.toList.all isIdentifierChar then .valid id
    else .refuse (.refused (kind.title ++
      " ID can only contain alphanumeric characters, underscores, and hyphens"))
  | _ => .refuse (.refused (kind.title ++ " ID cannot be empty"))

/-! ### Resources -/

/-- A database or a container. -/
structure Resource where
  id : String
  /-- The identifier that the store gave it. -/
  rid : String := ""
  /-- When it was last changed, in seconds. -/
  time : Int := 0
  /-- The link to itself. -/
  selfLink : String := ""
  etag : String := ""
  /-- The link to what it holds. -/
  inside : String := ""
deriving DecidableEq, Repr

/-- The fields of a resource. -/
def idLabel : Label := .plain "id"
def ridLabel : Label := ⟨"rid", "_rid"⟩
def timeLabel : Label := ⟨"ts", "_ts"⟩
def selfLabel : Label := ⟨"self_link", "_self"⟩
def etagLabel : Label := ⟨"etag", "_etag"⟩

namespace Resource

/-- The resource that fields describe. -/
def ofFields (kind : ResourceKind) (fields : Fields) : Checked Resource :=
  Resource.mk
    <$> idLabel.required fields (resourceId kind)
    <*> ridLabel.withDefault fields "" Check.text
    <*> timeLabel.withDefault fields 0 Check.integer
    <*> selfLabel.withDefault fields "" Check.text
    <*> etagLabel.withDefault fields "" Check.text
    <*> kind.insideLabel.withDefault fields "" Check.text

/-- Reads a resource. -/
def check (kind : ResourceKind) : Check Resource := Check.record (ofFields kind)

/-- Writes a resource. -/
def toJson (naming : Naming) (kind : ResourceKind) (resource : Resource) : Json :=
  .object [(idLabel.key naming, .string resource.id), (ridLabel.key naming, .string resource.rid),
    (timeLabel.key naming, .int resource.time), (selfLabel.key naming, .string resource.selfLink),
    (etagLabel.key naming, .string resource.etag),
    (kind.insideLabel.key naming, .string resource.inside)]

/-- A new resource in a folder of another one, whose link comes with a stroke behind it. -/
def create (kind : ResourceKind) (parent id rid : String) (now : Int) : Resource :=
  let selfLink := parent ++ kind.folder ++ "/" ++ rid
  { id, rid, time := now, selfLink, etag := "\"" ++ rid ++ "\""
    inside := selfLink ++ "/" ++ kind.inside ++ "/" }

end Resource

end DocQuery
