/-
**Operations on the store.**

* `Operation`: what can be asked of the store, and `Outcome`: what it answers;
* `Operation.action`: how an operation works;
* `Store.perform`: the answer to an operation, and the store after it, whether it failed or not.
-/

import DocQuery.Store.Action

namespace DocQuery

/-- What can be asked of the store. -/
inductive Operation where
  | createDatabase (id : String)
  | getDatabase (database : String)
  | listDatabases
  | deleteDatabase (database : String)
  | createContainer (database id : String)
  | getContainer (database container : String)
  | listContainers (database : String)
  | deleteContainer (database container : String)
  | createDocument (database container : String) (document : Json)
  | upsertDocument (database container : String) (document : Json)
  | getDocument (database container : String) (id : Json)
  | replaceDocument (database container : String) (id document : Json)
  | deleteDocument (database container : String) (id : Json)
  | listDocuments (database container : String)
  | query (database container : String) (query : PageQuery)
  | clear

/-- What the store answers. -/
inductive Outcome where
  | done
  | resource (kind : ResourceKind) (resource : Resource)
  | resources (kind : ResourceKind) (listing : Listing Resource)
  | document (document : Fields)
  | documents (listing : Listing Fields)
  | page (result : QueryResult)

/-- The field with the resources of a kind in a listing. -/
def ResourceKind.itemsLabel : ResourceKind → Label
  | .database => databasesLabel
  | .container => containersLabel

/-- An answer as it is written. -/
def Outcome.toJson : Outcome → Json
  | .done => .null
  | .resource kind value => value.toJson .wire kind
  | .resources kind listing =>
    .object (listing.toFields .wire kind.itemsLabel (Resource.toJson .wire kind))
  | .document fields => .object fields
  | .documents listing => .object (listing.toFields .wire documentsLabel .object)
  | .page result => result.toJson .wire

/-! ### Performing operations -/

/-- How an operation works. -/
def Operation.action (settings : QuerySettings) (now : Int) : Operation → Action Outcome
  | .createDatabase id => return .resource .database (← Action.createDatabase now id)
  | .getDatabase database => return .resource .database (← Action.findDatabase database)
  | .listDatabases => return .resources .database (← Action.listDatabases)
  | .deleteDatabase database => do Action.deleteDatabase database; return .done
  | .createContainer database id =>
    return .resource .container (← Action.createContainer now database id)
  | .getContainer database container =>
    return .resource .container (← Action.findContainer database container)
  | .listContainers database => return .resources .container (← Action.listContainers database)
  | .deleteContainer database container => do
    Action.deleteContainer database container
    return .done
  | .createDocument database container document =>
    return .document (← Action.createDocument now database container document)
  | .upsertDocument database container document =>
    return .document (← Action.upsertDocument now database container document)
  | .getDocument database container id =>
    return .document (← Action.findDocument database container id).2
  | .replaceDocument database container id document =>
    return .document (← Action.replaceDocument now database container id document)
  | .deleteDocument database container id => do
    Action.deleteDocument database container id
    return .done
  | .listDocuments database container =>
    return .documents (← Action.listDocuments database container)
  | .query database container asked =>
    return .page (← Action.queryDocuments settings database container asked)
  | .clear => do
    modify fun store => { store with databases := [], containers := [], documents := [] }
    return .done

/-- The answer to an operation, and the store after it. -/
def Store.perform (store : Store) (settings : QuerySettings) (now : Int) (operation : Operation) :
    Except StoreError Outcome × Store :=
  ((operation.action settings now).run).run store

end DocQuery
