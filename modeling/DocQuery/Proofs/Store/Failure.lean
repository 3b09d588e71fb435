/-
**Why operations fail.**

* `Operation.database?`, `container?`, `wanted?`, `submitted?`: what an operation refers to;
* `Operation.Fails`: on a store, an operation fails with a cause. `Fails.ne_dangling` says that
  tables that disagree are no cause.
-/

import DocQuery.Proofs.Store.Consistency
import DocQuery.Store.Operation

namespace DocQuery

namespace Operation

/-! ### What operations refer to -/

/-- The database that has to be there for an operation. -/
def database? : Operation → Option String
  | .createDatabase _ | .listDatabases | .clear => none
  | .getDatabase database | .deleteDatabase database => some database
  | .createContainer database _ | .listContainers database => some database
  | .getContainer database _ | .deleteContainer database _ => some database
  | .createDocument database _ _ | .upsertDocument database _ _ => some database
  | .getDocument database _ _ | .replaceDocument database _ _ _ => some database
  | .deleteDocument database _ _ | .listDocuments database _ => some database
  | .query database _ _ => some database

/-- The container that has to be there for an operation, behind its database. -/
def container? : Operation → Option (String × String)
  | .getContainer database container | .deleteContainer database container =>
    some (database, container)
  | .createDocument database container _ | .upsertDocument database container _ =>
    some (database, container)
  | .getDocument database container _ | .replaceDocument database container _ _ =>
    some (database, container)
  | .deleteDocument database container _ | .listDocuments database container =>
    some (database, container)
  | .query database container _ => some (database, container)
  | _ => none

/-- The identifier of the document that has to be there for an operation. -/
def wanted? : Operation → Option Json
  | .getDocument _ _ id | .replaceDocument _ _ id _ | .deleteDocument _ _ id => some id
  | _ => none

/-- The document that is to be added. -/
def submitted? : Operation → Option Json
  | .createDocument _ _ document | .upsertDocument _ _ document => some document
  | _ => none

theorem database?_of_container? {operation : Operation} {database container : String}
    (opens : operation.container? = some (database, container)) :
    operation.database? = some database := by
  cases operation <;> cases opens <;> rfl

end Operation

/-! ### Causes -/

/-- A value that cannot be looked for. -/
def Json.IsCollection : Json → Prop
  | .array _ | .object _ => True
  | _ => False

/-- On a store, an operation fails with a cause. -/
inductive Operation.Fails (settings : QuerySettings) (store : Store) :
    Operation → StoreError → Prop
  | databaseExists {id : String} {database : Resource}
    (found : store.databases.get? id = some database) :
    Fails settings store (.createDatabase id) (.databaseExists id)
  | databaseMissing {operation : Operation} {database : String}
    (opens : operation.database? = some database)
    (absent : store.databases.get? database = none) :
    Fails settings store operation (.databaseMissing database)
  | containerExists {database id : String} {containers : Table Resource} {container : Resource}
    (isContainers : store.containers.get? database = some containers)
    (found : containers.get? id = some container) :
    Fails settings store (.createContainer database id) (.containerExists database id)
  | containerMissing {operation : Operation} {database container : String}
    {containers : Table Resource} (opens : operation.container? = some (database, container))
    (isContainers : store.containers.get? database = some containers)
    (absent : containers.get? container = none) :
    Fails settings store operation (.containerMissing database container)
  | collection {operation : Operation} {database container : String} {id : Json}
    (shelf : Shelf store database container)
    (opens : operation.container? = some (database, container))
    (wants : operation.wanted? = some id) (collects : id.IsCollection) :
    Fails settings store operation .unusable
  | documentMissing {operation : Operation} {database container : String} {id : Json}
    (shelf : Shelf store database container)
    (opens : operation.container? = some (database, container))
    (wants : operation.wanted? = some id) (single : ¬ id.IsCollection)
    (absent : ∀ key, id = .string key → shelf.documents.get? key = none) :
    Fails settings store operation (.documentMissing id)
  | refused {operation : Operation} {database container : String} {document : Json}
    {fault : DocumentFault} (shelf : Shelf store database container)
    (opens : operation.container? = some (database, container))
    (submits : operation.submitted? = some document)
    (refused : prepare document = .error fault) :
    Fails settings store operation (.refused fault)
  | documentExists {database container : String} {document : Json} {id : String}
    {prepared existing : Fields} (shelf : Shelf store database container)
    (accepted : prepare document = .ok (id, prepared))
    (found : shelf.documents.get? id = some existing) :
    Fails settings store (.createDocument database container document) (.documentExists id)
  | unusable {database container key : String} {document : Json} {existing : Fields}
    (shelf : Shelf store database container)
    (found : shelf.documents.get? key = some existing)
    (other : ∀ fields, document ≠ .object fields) :
    Fails settings store (.replaceDocument database container (.string key) document) .unusable
  | unidentified {database container key : String} {fields existing : Fields}
    {fault : DocumentFault} (shelf : Shelf store database container)
    (found : shelf.documents.get? key = some existing)
    (refused : prepare (.object (Table.set fields "id" (.string key))) = .error fault) :
    Fails settings store (.replaceDocument database container (.string key) (.object fields))
      (.refused fault)
  | unreadable {database container : String} {asked : PageQuery} {cause : SyntaxError}
    (refused : Query.ofJson asked.text = .error cause) :
    Fails settings store (.query database container asked) (.unreadable cause)
  | unanswered {database container : String} {asked : PageQuery} {query : Query}
    {cause : ExecutionError} (shelf : Shelf store database container)
    (isQuery : Query.ofJson asked.text = .ok query)
    (refused : query.execute settings .standard asked.parameters
      (shelf.documents.map Prod.snd) = .error cause) :
    Fails settings store (.query database container asked) (.unanswered cause)

/-- No operation fails because the tables disagree. -/
theorem Operation.Fails.ne_dangling {settings : QuerySettings} {store : Store}
    {operation : Operation} {cause : StoreError} (fails : operation.Fails settings store cause) :
    cause ≠ .dangling := by
  rintro rfl
  cases fails

end DocQuery
