/-
**The store.**

Three tables: the databases, the containers of each database, and the documents of each container of
each database. An entry of a table can be reached only through those of the tables before it.

* `StoreError`: why an operation fails. `dangling` would mean that the tables disagree;
* `IdSupply`: where new identifiers come from;
* `Action`: a step on the store that may fail. What it did before it failed stays done;
* `findDatabase`, `findContainer`, `findDocument`: the entries, or the cause why there is none;
* `freshRid`, `freshEtag`: the next identifiers of the supply.
-/

import DocQuery.Query.Execute
import DocQuery.Query.Read
import DocQuery.Store.Document
import DocQuery.Store.Request

namespace DocQuery

/-! ### Failures -/

/-- Why an operation on the store fails. -/
inductive StoreError where
  | databaseMissing (database : String)
  | databaseExists (database : String)
  | containerMissing (database container : String)
  | containerExists (database container : String)
  /-- There is no document with the identifier that is given, which may be any value. -/
  | documentMissing (id : Json)
  | documentExists (id : String)
  /-- A submitted document is refused. -/
  | refused (fault : DocumentFault)
  /-- The document to replace another one is no object, or the identifier is a collection. -/
  | unusable
  /-- A query cannot be read. -/
  | unreadable (cause : SyntaxError)
  /-- A query has no answer. -/
  | unanswered (cause : ExecutionError)
  /-- An entry of one table has no counterpart in another, or a stored document has no identifier
  from the store. -/
  | dangling

/-- The message of a failure. -/
def StoreError.message : StoreError → String
  | .databaseMissing database => "Database with id '" ++ database ++ "' not found"
  | .databaseExists database => "Database with id '" ++ database ++ "' already exists"
  | .containerMissing database container =>
    "Container with id '" ++ container ++ "' not found in database '" ++ database ++ "'"
  | .containerExists database container =>
    "Container with id '" ++ container ++ "' already exists in database '" ++ database ++ "'"
  | .documentMissing id => "Document with id '" ++ id.plain ++ "' not found"
  | .documentExists id => "Document with id '" ++ id ++ "' already exists"
  | .refused fault => fault.message
  | .unusable => "Not an object or not an identifier"
  | .unreadable cause => cause.message
  | .unanswered (.parameters cause) => cause.message
  | .unanswered (.evaluation cause) => cause.message
  | .dangling => "The tables of the store disagree"

/-! ### State -/

/-- Where a store takes new identifiers from: any texts, one after the other. -/
structure IdSupply where
  /-- The identifiers of resources and documents, in the order of their creation. -/
  rid : Nat → String
  /-- The tags of documents, in the order in which they are written. -/
  etag : Nat → String

/-- Identifiers and tags that are counted. -/
def IdSupply.counting : IdSupply :=
  ⟨fun count => "R" ++ toString count, fun count => "E" ++ toString count⟩

/-- The contents of the store. -/
structure Store where
  supply : IdSupply := .counting
  databases : Table Resource := []
  containers : Table (Table Resource) := []
  documents : Table (Table (Table Fields)) := []
  /-- How many resources were given an identifier. -/
  created : Nat := 0
  /-- How many times a document was written. -/
  writes : Nat := 0

/-- A step on the store. -/
abbrev Action (α : Type) := ExceptT StoreError (StateM Store) α

namespace Action

/-- A value that has to be there. -/
def demand {α : Type} (value : Option α) (cause : StoreError) : Action α :=
  match value with
  | some value => pure value
  | none => throw cause

/-- A new identifier for a resource or a document. -/
def freshRid : Action String := do
  modify fun store => { store with created := store.created + 1 }
  return (← get).supply.rid (← get).created

/-- A new tag for a write. -/
def freshEtag : Action String := do
  modify fun store => { store with writes := store.writes + 1 }
  return (← get).supply.etag (← get).writes

/-! ### Entries -/

/-- A database. -/
def findDatabase (database : String) : Action Resource := do
  demand ((← get).databases.get? database) (.databaseMissing database)

/-- The containers of a database that is there. -/
def containersOf (database : String) : Action (Table Resource) := do
  demand ((← get).containers.get? database) .dangling

/-- A container. -/
def findContainer (database container : String) : Action Resource := do
  let _ ← findDatabase database
  demand ((← containersOf database).get? container) (.containerMissing database container)

/-- The containers of a database with their documents. -/
def shelvesOf (database : String) : Action (Table (Table Fields)) := do
  demand ((← get).documents.get? database) .dangling

/-- The documents of a container that is there. -/
def documentsOf (database container : String) : Action (Table Fields) := do
  demand ((← shelvesOf database).get? container) .dangling

/-- The text that identifies a document. Other values identify none, and collections cannot even be
looked for. -/
def documentKey : Json → Action String
  | .string id => pure id
  | .array _ | .object _ => throw .unusable
  | id => throw (.documentMissing id)

/-- A document with the text that identifies it. -/
def findDocument (database container : String) (id : Json) : Action (String × Fields) := do
  let _ ← findContainer database container
  let documents ← documentsOf database container
  let key ← documentKey id
  return (key, ← demand (documents.get? key) (.documentMissing id))

/-! ### Changes -/

/-- Puts other containers in the place of those of a database. -/
def setContainers (database : String) (containers : Table Resource) : Action Unit :=
  modify fun store => { store with containers := store.containers.set database containers }

/-- Puts other shelves in the place of those of a database. -/
def setShelves (database : String) (shelves : Table (Table Fields)) : Action Unit :=
  modify fun store => { store with documents := store.documents.set database shelves }

/-- Puts other documents in the place of those of a container. -/
def setDocuments (database container : String) (documents : Table Fields) : Action Unit := do
  setShelves database ((← shelvesOf database).set container documents)

end Action

end DocQuery
