/-
**Consistent stores.**

* `FiledIn`: the documents of a container are filed under their identifiers;
* `Shelved`: the containers of a database and their documents agree;
* `Consistent`: the three tables of a store agree. `Consistent.shelve` and its like say which
  changes keep it;
* `Shelf`: a container with its documents in a store. `Consistent.exists_shelf` finds one for every
  container that is listed.
-/

import DocQuery.Proofs.Store.Document
import DocQuery.Store.Basic

namespace DocQuery

/-! ### Tables that agree -/

/-- The documents of a container are filed under their identifiers. -/
structure FiledIn (container : Resource) (documents : Table Fields) : Prop where
  distinct : documents.Distinct
  filed : documents.Each (Filed container)

/-- The containers of a database stand under their own identifiers, and their documents stand under
the same ones in the same order. -/
structure Shelved (containers : Table Resource) (shelves : Table (Table Fields)) : Prop where
  distinct : containers.Distinct
  named : containers.Each fun id container => container.id = id
  aligned : Table.Aligned FiledIn containers shelves

/-- The databases of a store stand under their own identifiers, and the containers and the documents
of each stand under the same ones in the same order. -/
structure Consistent (store : Store) : Prop where
  distinct : store.databases.Distinct
  named : store.databases.Each fun id database => database.id = id
  keys : store.containers.keys = store.databases.keys
  aligned : Table.Aligned Shelved store.containers store.documents

theorem filedIn_nil (container : Resource) : FiledIn container [] :=
  ⟨Table.distinct_nil, Table.each_nil⟩

theorem shelved_nil : Shelved [] [] := ⟨Table.distinct_nil, Table.each_nil, Table.aligned_nil⟩

section

variable {container : Resource} {documents : Table Fields}

theorem FiledIn.set (filedIn : FiledIn container documents) {id : String} {document : Fields}
    (filed : Filed container id document) : FiledIn container (documents.set id document) :=
  ⟨filedIn.distinct.set id document, filedIn.filed.set filed⟩

theorem FiledIn.erase (filedIn : FiledIn container documents) (id : String) :
    FiledIn container (documents.erase id) :=
  ⟨filedIn.distinct.erase id, filedIn.filed.erase id⟩

end

section

variable {containers : Table Resource} {shelves : Table (Table Fields)}

/-- A new container has no documents. -/
theorem Shelved.add (shelved : Shelved containers shelves) {id : String} {container : Resource}
    (named : container.id = id) : Shelved (containers.set id container) (shelves.set id []) :=
  ⟨shelved.distinct.set id container, shelved.named.set named,
    shelved.aligned.set id (filedIn_nil container)⟩

theorem Shelved.erase (shelved : Shelved containers shelves) (id : String) :
    Shelved (containers.erase id) (shelves.erase id) :=
  ⟨shelved.distinct.erase id, shelved.named.erase id, shelved.aligned.erase id⟩

/-- The documents of a container can be replaced by others that are filed. -/
theorem Shelved.fill (shelved : Shelved containers shelves) {id : String} {container : Resource}
    {documents : Table Fields} (found : containers.get? id = some container)
    (filedIn : FiledIn container documents) : Shelved containers (shelves.set id documents) :=
  ⟨shelved.distinct, shelved.named, shelved.aligned.set_right found filedIn⟩

end

/-! ### Changes of the store -/

namespace Store

/-- A store with other counts of what it has made. -/
def counted (store : Store) (created writes : Nat) : Store := { store with created, writes }

/-- A store with a database without containers. -/
def withDatabase (store : Store) (id : String) (database : Resource) : Store :=
  { store with
    databases := store.databases.set id database
    containers := store.containers.set id []
    documents := store.documents.set id [] }

/-- A store without a database, its containers and its documents. -/
def withoutDatabase (store : Store) (id : String) : Store :=
  { store with
    databases := store.databases.erase id
    containers := store.containers.erase id
    documents := store.documents.erase id }

/-- A store with other containers and documents of a database. -/
def shelve (store : Store) (database : String) (containers : Table Resource)
    (shelves : Table (Table Fields)) : Store :=
  { store with
    containers := store.containers.set database containers
    documents := store.documents.set database shelves }

/-- A store with other documents of a database. -/
def fill (store : Store) (database : String) (shelves : Table (Table Fields)) : Store :=
  { store with documents := store.documents.set database shelves }

/-- A store that holds nothing. -/
def cleared (store : Store) : Store :=
  { store with databases := [], containers := [], documents := [] }

end Store

theorem consistent_cleared (store : Store) : Consistent store.cleared :=
  ⟨Table.distinct_nil, Table.each_nil, rfl, Table.aligned_nil⟩

section

variable {store : Store} {database : String} {containers : Table Resource}
  {shelves : Table (Table Fields)}

theorem Consistent.counted (consistent : Consistent store) (created writes : Nat) :
    Consistent (store.counted created writes) :=
  ⟨consistent.distinct, consistent.named, consistent.keys, consistent.aligned⟩

theorem Consistent.withDatabase (consistent : Consistent store) {id : String} {database : Resource}
    (named : database.id = id) : Consistent (store.withDatabase id database) :=
  ⟨consistent.distinct.set id database, consistent.named.set named,
    Table.keys_set_congr consistent.keys id database [], consistent.aligned.set id shelved_nil⟩

theorem Consistent.withoutDatabase (consistent : Consistent store) (id : String) :
    Consistent (store.withoutDatabase id) :=
  ⟨consistent.distinct.erase id, consistent.named.erase id,
    Table.keys_erase_congr consistent.keys id, consistent.aligned.erase id⟩

/-- The containers and documents of a database can be replaced by others that agree. -/
theorem Consistent.shelve (consistent : Consistent store) {old : Table Resource}
    (found : store.containers.get? database = some old) (shelved : Shelved containers shelves) :
    Consistent (store.shelve database containers shelves) :=
  ⟨consistent.distinct, consistent.named,
    (Table.keys_set_of_get? found containers).trans consistent.keys,
    consistent.aligned.set database shelved⟩

/-- The documents of a database can be replaced by others that agree with its containers. -/
theorem Consistent.fill (consistent : Consistent store)
    (found : store.containers.get? database = some containers)
    (shelved : Shelved containers shelves) : Consistent (store.fill database shelves) :=
  ⟨consistent.distinct, consistent.named, consistent.keys,
    consistent.aligned.set_right found shelved⟩

end

/-! ### Shelves -/

/-- A container with its documents, and the tables of its database in which they stand. -/
structure Shelf (store : Store) (database container : String) where
  containers : Table Resource
  shelves : Table (Table Fields)
  owner : Resource
  documents : Table Fields
  isContainers : store.containers.get? database = some containers
  isShelves : store.documents.get? database = some shelves
  isOwner : containers.get? container = some owner
  isDocuments : shelves.get? container = some documents

/-- Every database has containers and documents that agree. -/
theorem Consistent.exists_shelved {store : Store} (consistent : Consistent store)
    {database : String} {owner : Resource} (found : store.databases.get? database = some owner) :
    ∃ containers shelves, store.containers.get? database = some containers ∧
      store.documents.get? database = some shelves ∧ Shelved containers shelves := by
  have present : database ∈ store.containers.keys :=
    consistent.keys ▸ Table.mem_keys.mpr ⟨owner, found⟩
  obtain ⟨containers, isContainers⟩ := Table.mem_keys.mp present
  obtain ⟨shelves, isShelves, shelved⟩ := consistent.aligned.exists_get? isContainers
  exact ⟨containers, shelves, isContainers, isShelves, shelved⟩

/-- Every container has a shelf. -/
theorem Consistent.exists_shelf {store : Store} (consistent : Consistent store)
    {database container : String} {containers : Table Resource} {owner : Resource}
    (isContainers : store.containers.get? database = some containers)
    (isOwner : containers.get? container = some owner) :
    ∃ shelf : Shelf store database container, shelf.owner = owner := by
  obtain ⟨shelves, isShelves, shelved⟩ := consistent.aligned.exists_get? isContainers
  obtain ⟨documents, isDocuments, -⟩ := shelved.aligned.exists_get? isOwner
  exact ⟨⟨containers, shelves, owner, documents, isContainers, isShelves, isOwner, isDocuments⟩,
    rfl⟩

namespace Shelf

variable {store : Store} {database container : String} (shelf : Shelf store database container)

/-- A shelf does not depend on what the store counts. -/
def counted (created writes : Nat) : Shelf (store.counted created writes) database container :=
  { shelf with }

/-- The store with other documents on a shelf. -/
def fill (documents : Table Fields) : Store :=
  store.fill database (shelf.shelves.set container documents)

/-- There is one shelf for a container only. -/
theorem eq (other : Shelf store database container) : shelf = other := by
  obtain ⟨containers, shelves, owner, documents, isContainers, isShelves, isOwner, isDocuments⟩ :=
    shelf
  obtain ⟨containers', shelves', owner', documents', isContainers', isShelves', isOwner',
    isDocuments'⟩ := other
  obtain rfl := Option.some.inj (isContainers.symm.trans isContainers')
  obtain rfl := Option.some.inj (isShelves.symm.trans isShelves')
  obtain rfl := Option.some.inj (isOwner.symm.trans isOwner')
  obtain rfl := Option.some.inj (isDocuments.symm.trans isDocuments')
  rfl

theorem shelved (consistent : Consistent store) : Shelved shelf.containers shelf.shelves :=
  consistent.aligned.related _ _ _ shelf.isContainers shelf.isShelves

theorem filedIn (consistent : Consistent store) : FiledIn shelf.owner shelf.documents :=
  (shelf.shelved consistent).aligned.related _ _ _ shelf.isOwner shelf.isDocuments

/-- A document on a shelf has an identifier that the store gave it. -/
theorem exists_rid (consistent : Consistent store) {id : String} {document : Fields}
    (found : shelf.documents.get? id = some document) : ∃ rid, storedRid? document = some rid :=
  ((shelf.filedIn consistent).filed id document found).exists_rid

/-- The documents on a shelf can be replaced by others that are filed. -/
theorem consistent_fill (consistent : Consistent store) {documents : Table Fields}
    (filedIn : FiledIn shelf.owner documents) : Consistent (shelf.fill documents) :=
  consistent.fill shelf.isContainers ((shelf.shelved consistent).fill shelf.isOwner filedIn)

/-- A document that is filed can be added to those on a shelf. -/
theorem consistent_write (consistent : Consistent store) {documents : Table Fields}
    (filedIn : FiledIn shelf.owner documents) {id : String} {document : Fields}
    (filed : Filed shelf.owner id document) (created writes : Nat) :
    Consistent ((shelf.counted created writes).fill (documents.set id document)) :=
  (shelf.counted created writes).consistent_fill (consistent.counted created writes)
    (filedIn.set filed)

end Shelf

end DocQuery
