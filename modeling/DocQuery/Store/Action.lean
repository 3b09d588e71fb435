/-
**What the store does.**

One action for each thing that can be asked of the store: databases and containers are created,
listed and deleted, documents are written, read and deleted, and queries are answered page by page.
An action that cannot go on leaves behind what it has changed so far.
-/

import DocQuery.Paging.Page
import DocQuery.Store.Basic

namespace DocQuery

/-- A query for one page of its answer. -/
structure PageQuery where
  text : Json
  parameters : Json
  size : Option Int
  token : Option String

/-- The query that a request asks for. -/
def QueryRequest.toQuery (request : QueryRequest) : PageQuery :=
  ⟨.string request.query, request.parametersJson, request.pageSize.map fun size => size.val,
    request.continuation⟩

namespace Action

/-! ### Databases -/

/-- Creates a database without containers. -/
def createDatabase (now : Int) (id : String) : Action Resource := do
  if ((← get).databases.get? id).isSome then throw (.databaseExists id)
  let rid ← freshRid
  let database := Resource.create .database "" id rid now
  modify fun store => { store with databases := store.databases.set id database }
  setContainers id []
  setShelves id []
  return database

/-- All databases. -/
def listDatabases : Action (Listing Resource) := do
  return .ofItems "" ((← get).databases.map Prod.snd)

/-- Deletes a database with its containers and documents. -/
def deleteDatabase (database : String) : Action Unit := do
  let _ ← findDatabase database
  let _ ← containersOf database
  modify fun store => { store with containers := store.containers.erase database }
  let _ ← shelvesOf database
  modify fun store => { store with documents := store.documents.erase database }
  modify fun store => { store with databases := store.databases.erase database }

/-! ### Containers -/

/-- Creates a container without documents. -/
def createContainer (now : Int) (database id : String) : Action Resource := do
  let owner ← findDatabase database
  let containers ← containersOf database
  if (containers.get? id).isSome then throw (.containerExists database id)
  let rid ← freshRid
  let container := Resource.create .container (owner.selfLink ++ "/") id rid now
  setContainers database (containers.set id container)
  setDocuments database id []
  return container

/-- The containers of a database. -/
def listContainers (database : String) : Action (Listing Resource) := do
  let owner ← findDatabase database
  return .ofItems owner.rid ((← containersOf database).map Prod.snd)

/-- Deletes a container with its documents. -/
def deleteContainer (database container : String) : Action Unit := do
  let _ ← findContainer database container
  setContainers database ((← containersOf database).erase container)
  let _ ← documentsOf database container
  setShelves database ((← shelvesOf database).erase container)

/-! ### Documents -/

/-- A document that is submitted, with its identifier. -/
def submitted (document : Json) : Action (String × Fields) :=
  match prepare document with
  | .ok prepared => pure prepared
  | .error fault => throw (.refused fault)

/-- The identifier that the store gave to a document that it holds. -/
def ridOf (document : Fields) : Action String := demand (storedRid? document) .dangling

/-- A prepared document with system properties. It keeps the identifier that the store gave it, or
gets a new one. -/
def stamped (now : Int) (container : Resource) (rid : Option String) (document : Fields) :
    Action Fields := do
  let rid ← match rid with
    | some rid => pure rid
    | none => freshRid
  return stamp container.selfLink rid (← freshEtag) now document

/-- Adds a document to a container. -/
def createDocument (now : Int) (database container : String) (document : Json) : Action Fields := do
  let owner ← findContainer database container
  let (id, prepared) ← submitted document
  let documents ← documentsOf database container
  if (documents.get? id).isSome then throw (.documentExists id)
  let document ← stamped now owner none prepared
  setDocuments database container (documents.set id document)
  return document

/-- Adds a document to a container behind all others, in place of one with the same identifier. -/
def upsertDocument (now : Int) (database container : String) (document : Json) : Action Fields := do
  let owner ← findContainer database container
  let (id, prepared) ← submitted document
  let documents ← documentsOf database container
  setDocuments database container (documents.erase id)
  let rid ← match documents.get? id with
    | some existing => some <$> ridOf existing
    | none => pure none
  let document ← stamped now owner rid prepared
  setDocuments database container ((documents.erase id).set id document)
  return document

/-- A document with another identifier. -/
def withId (id : String) : Json → Action Json
  | .object fields => pure (.object (Table.set fields "id" (.string id)))
  | _ => throw .unusable

/-- Puts a document in the place of another one. -/
def replaceDocument (now : Int) (database container : String) (id document : Json) :
    Action Fields := do
  let owner ← findContainer database container
  let (key, existing) ← findDocument database container id
  let (_, prepared) ← submitted (← withId key document)
  let document ← stamped now owner (some (← ridOf existing)) prepared
  setDocuments database container ((← documentsOf database container).set key document)
  return document

/-- Removes a document from a container. -/
def deleteDocument (database container : String) (id : Json) : Action Unit := do
  let (key, _) ← findDocument database container id
  setDocuments database container ((← documentsOf database container).erase key)

/-- The documents of a container in their order. -/
def listDocuments (database container : String) : Action (Listing Fields) := do
  let owner ← findContainer database container
  return .ofItems owner.rid ((← documentsOf database container).map Prod.snd)

/-! ### Queries -/

/-- One page of the answer to a query on the documents of a container. -/
def queryDocuments (settings : QuerySettings) (database container : String) (asked : PageQuery) :
    Action QueryResult := do
  let query ← match Query.ofJson asked.text with
    | .ok query => pure query
    | .error cause => throw (.unreadable cause)
  let owner ← findContainer database container
  let documents := (← documentsOf database container).map Prod.snd
  let results ← match query.execute settings Registry.standard asked.parameters documents with
    | .ok results => pure results
    | .error cause => throw (.unanswered cause)
  let found := page results (effectiveSize settings.pageSize.val asked.size) asked.token
  return ⟨.ofItems owner.rid found.items, found.next⟩

end Action

end DocQuery
