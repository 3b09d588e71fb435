/-
**A catalogue of what users store.**

Databases hold containers and containers hold documents, each under its identifier and in the order
in which they were added. Of a document a catalogue knows the fields that its user gave it. What it
says of documents and operations it says for itself: nothing here refers to how a store works.

* `Catalog.entryOf`: which documents are accepted, under which identifier and with which fields;
* `Catalog.perform`: what an operation does to a catalogue and what is reported of it, or why it
  fails. It says nothing of the answers to queries, which change nothing;
* `Catalog.next`, `Catalog.answer`: the catalogue after an operation, and the report;
* `Catalog.Orderly`: no identifier occurs twice in one place;
* `Catalog.fresh`: what is created begins empty, and nothing stays below what is deleted.
-/

import DocQuery.Proofs.Except
import DocQuery.Proofs.Table
import DocQuery.Store.Operation

namespace DocQuery

/-- Documents with the fields that users gave them, in containers, in databases. -/
abbrev Catalog := Table (Table (Table Fields))

/-- What is reported of identifiers and of the fields that users gave. -/
inductive Report where
  | done
  | name (id : String)
  | names (ids : List String)
  | document (id : Option String) (fields : Fields)
  | documents (entries : List (Option String × Fields))
  | page

namespace Catalog

/-! ### Documents -/

/-- The names of the fields that are never a user's. -/
def reserved : List String := ["_rid", "_ts", "_self", "_etag", "_attachments"]

/-- The fields of a document that its user gave it. -/
def ownFields (document : Fields) : Fields := document.filter fun field => field.1 ∉ reserved

/-- The value of a field, unless it is null. -/
def given? (document : Fields) (name : String) : Option Json :=
  match document.get? name with
  | some .null => none
  | value => value

/-- What identifies a document: the first of its fields `id` and `Id` that is not null. -/
def identifier? (document : Fields) : Option Json := ["id", "Id"].findSome? (given? document)

/-- An identifier as a text. A text stands for itself, and any other value for the way it is
written, so that 7 and the text 7 are the same identifier. -/
def identifierText : Json → String
  | .string text => text
  | .float value => value.text
  | value => value.compact

/-- The identifier of a document as a text. -/
def nameOf? (document : Fields) : Option String := (identifier? document).map identifierText

/-- The identifier and the fields of a document that is submitted. It has to be an object with an
identifier whose text is not empty. What identifies it becomes its `id`. -/
def entryOf : Json → Except StoreError (String × Fields)
  | .object document =>
    match identifier? (ownFields document) with
    | some identifier =>
      if identifierText identifier = "" then .error (.refused .unidentified)
      else .ok (identifierText identifier, (ownFields document).set "id" identifier)
    | none => .error (.refused .unidentified)
  | _ => .error (.refused .notObject)

/-! ### Entries -/

/-- What stands under a key, or the cause why there is nothing. -/
def lookUp {α : Type} (table : Table α) (key : String) (cause : StoreError) :
    Except StoreError α :=
  match table.get? key with
  | some value => .ok value
  | none => .error cause

/-- The containers of a database. -/
def containersOf (catalog : Catalog) (database : String) :
    Except StoreError (Table (Table Fields)) :=
  lookUp catalog database (.databaseMissing database)

/-- The documents of a container. -/
def documentsOf (catalog : Catalog) (database container : String) :
    Except StoreError (Table Fields) := do
  lookUp (← catalog.containersOf database) container (.containerMissing database container)

/-- A document with its identifier. Only texts are identifiers. -/
def documentOf (catalog : Catalog) (database container : String) (id : Json) :
    Except StoreError (String × Fields) := do
  let documents ← catalog.documentsOf database container
  match id with
  | .string key => return (key, ← lookUp documents key (.documentMissing (.string key)))
  | .array _ | .object _ => .error .unusable
  | other => .error (.documentMissing other)

/-! ### Operations -/

/-- A catalogue with the documents of one container changed. -/
def amend (catalog : Catalog) (database container : String)
    (change : Table Fields → Table Fields) : Catalog :=
  catalog.alter database fun containers => containers.alter container change

/-- What an operation reports, and the catalogue after it. -/
def perform (catalog : Catalog) : Operation → Except StoreError (Report × Catalog)
  | .createDatabase id =>
    if id ∈ catalog.keys then .error (.databaseExists id)
    else .ok (.name id, catalog ++ [(id, [])])
  | .getDatabase database => do
    let _ ← catalog.containersOf database
    return (.name database, catalog)
  | .listDatabases => .ok (.names catalog.keys, catalog)
  | .deleteDatabase database => do
    let _ ← catalog.containersOf database
    return (.done, catalog.erase database)
  | .createContainer database id => do
    let containers ← catalog.containersOf database
    if id ∈ containers.keys then .error (.containerExists database id)
    else return (.name id, catalog.alter database (· ++ [(id, [])]))
  | .getContainer database container => do
    let _ ← catalog.documentsOf database container
    return (.name container, catalog)
  | .listContainers database => do
    let containers ← catalog.containersOf database
    return (.names containers.keys, catalog)
  | .deleteContainer database container => do
    let _ ← catalog.documentsOf database container
    return (.done, catalog.alter database (·.erase container))
  | .createDocument database container document => do
    let documents ← catalog.documentsOf database container
    let (id, fields) ← entryOf document
    if id ∈ documents.keys then .error (.documentExists id)
    else return (.document id fields, catalog.amend database container (· ++ [(id, fields)]))
  | .upsertDocument database container document => do
    let _ ← catalog.documentsOf database container
    let (id, fields) ← entryOf document
    return (.document id fields,
      catalog.amend database container (·.erase id ++ [(id, fields)]))
  | .getDocument database container id => do
    let (key, fields) ← catalog.documentOf database container id
    return (.document key fields, catalog)
  | .replaceDocument database container id document => do
    let (key, _) ← catalog.documentOf database container id
    match document with
    | .object fields =>
      let (_, fields) ← entryOf (.object (Table.set fields "id" (.string key)))
      return (.document key fields,
        catalog.amend database container (·.alter key fun _ => fields))
    | _ => .error .unusable
  | .deleteDocument database container id => do
    let (key, _) ← catalog.documentOf database container id
    return (.done, catalog.amend database container (·.erase key))
  | .listDocuments database container => do
    let documents ← catalog.documentsOf database container
    return (.documents (documents.map fun entry => (some entry.1, entry.2)), catalog)
  | .query .. => .ok (.page, catalog)
  | .clear => .ok (.done, [])

/-- What is reported of an operation. -/
def answer (catalog : Catalog) (operation : Operation) : Except StoreError Report :=
  (catalog.perform operation).map Prod.fst

/-- The catalogue after an operation. One that fails changes nothing. -/
def next (catalog : Catalog) (operation : Operation) : Catalog :=
  match catalog.perform operation with
  | .ok (_, changed) => changed
  | .error _ => catalog

/-- The catalogue after several operations. -/
def run (catalog : Catalog) (operations : List Operation) : Catalog :=
  operations.foldl next catalog

/-! ### What is looked up -/

theorem lookUp_of_get? {α : Type} {table : Table α} {key : String} {value : α}
    (found : table.get? key = some value) (cause : StoreError) :
    lookUp table key cause = .ok value := by
  rw [lookUp, found]

theorem lookUp_of_get?_none {α : Type} {table : Table α} {key : String}
    (absent : table.get? key = none) (cause : StoreError) :
    lookUp table key cause = .error cause := by
  rw [lookUp, absent]

theorem get?_of_lookUp {α : Type} {table : Table α} {key : String} {cause : StoreError} {value : α}
    (found : lookUp table key cause = .ok value) : table.get? key = some value := by
  unfold lookUp at found
  split at found
  · next isValue =>
    cases found
    exact isValue
  · cases found

/-- What is added under a new key is found there. -/
theorem lookUp_append {α : Type} {table : Table α} {key : String} (new : key ∉ table.keys)
    (value : α) (cause : StoreError) :
    lookUp (table ++ [(key, value)]) key cause = .ok value := by
  rw [← Table.set_of_get?_none (Table.get?_eq_none.mpr new)]
  exact lookUp_of_get? (Table.get?_set_self table key value) cause

/-- A changed entry of a catalogue is found changed. -/
theorem containersOf_alter {catalog : Catalog} {database : String}
    {containers : Table (Table Fields)} (found : catalog.containersOf database = .ok containers)
    (change : Table (Table Fields) → Table (Table Fields)) :
    Catalog.containersOf (catalog.alter database change) database = .ok (change containers) := by
  refine lookUp_of_get? ?_ _
  rw [Table.get?_alter_self, get?_of_lookUp found]
  rfl

/-! ### Laws -/

/-- In each place of a catalogue identifiers tell the entries apart. -/
structure Orderly (catalog : Catalog) : Prop where
  databases : catalog.keys.Nodup
  containers : ∀ database containers, catalog.containersOf database = .ok containers →
    containers.keys.Nodup
  documents : ∀ database container documents,
    catalog.documentsOf database container = .ok documents → documents.keys.Nodup

/-- What is created begins empty, and nothing stays below what is deleted. -/
structure Fresh (catalog : Catalog) : Prop where
  createDatabase : ∀ database report changed,
    catalog.perform (.createDatabase database) = .ok (report, changed) →
    changed.containersOf database = .ok []
  deleteDatabase : ∀ database report changed,
    catalog.perform (.deleteDatabase database) = .ok (report, changed) →
    changed.containersOf database = .error (.databaseMissing database)
  createContainer : ∀ database container report changed,
    catalog.perform (.createContainer database container) = .ok (report, changed) →
    changed.documentsOf database container = .ok []
  deleteContainer : ∀ database container report changed,
    catalog.perform (.deleteContainer database container) = .ok (report, changed) →
    changed.documentsOf database container = .error (.containerMissing database container)

theorem fresh (catalog : Catalog) : catalog.Fresh where
  createDatabase database report changed performed := by
    simp only [perform] at performed
    split at performed
    · cases performed
    · next new =>
      cases performed
      exact lookUp_append new [] _
  deleteDatabase database report changed performed := by
    obtain ⟨containers, -, isChanged⟩ := bind_eq_ok.mp performed
    cases isChanged
    exact lookUp_of_get?_none (Table.get?_erase_self catalog database) _
  createContainer database container report changed performed := by
    obtain ⟨containers, found, isChanged⟩ := bind_eq_ok.mp performed
    split at isChanged
    · cases isChanged
    · next new =>
      cases isChanged
      rw [documentsOf, containersOf_alter found]
      exact lookUp_append new [] _
  deleteContainer database container report changed performed := by
    obtain ⟨documents, within, isChanged⟩ := bind_eq_ok.mp performed
    obtain ⟨containers, found, -⟩ := bind_eq_ok.mp within
    cases isChanged
    rw [documentsOf, containersOf_alter found]
    exact lookUp_of_get?_none (Table.get?_erase_self containers container) _

end Catalog

end DocQuery
