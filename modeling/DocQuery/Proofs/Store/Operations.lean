/-
**What the operations on a store do.**

Each lemma says what an operation does to a consistent store: it either fails for one of its causes
and leaves the store as it is, or it makes one change.

* `ensures_findContainer`: a container that is found has a shelf;
* `ensures_createDocument`, `ensures_replaceDocument` and their like: one lemma for each operation;
* `Store.Step`: an operation that succeeds, with its answer and the store after it.
  `Consistent.perform_cases` says that an operation makes a step, or fails and changes nothing;
* `Consistent.step`: a store stays consistent, whatever it is asked, and its tables never
  disagree;
* `Store.reachable_consistent`: so does a store after any operations;
* `Store.perform_unchanged`: operations that fail, and queries, leave everything as it is.
-/

import DocQuery.Proofs.Store.Ensures
import DocQuery.Proofs.Store.Failure

namespace DocQuery

namespace Action

section

variable {after : Resource → Store → Prop} {failed : StoreError → Store → Prop} {store : Store}
  {settings : QuerySettings} {operation : Operation} {database container : String}

/-! ### Entries -/

theorem ensures_findDatabase (fails : ∀ cause, operation.Fails settings store cause →
      failed cause store) (opens : operation.database? = some database)
    (found : ∀ owner, store.databases.get? database = some owner → after owner store) :
    Ensures (findDatabase database) after failed store := by
  unfold findDatabase
  rw [ensures_bind, ensures_get, ensures_demand]
  exact ⟨fun absent => fails _ (.databaseMissing opens absent), found⟩

theorem ensures_containersOf {containers : Table Resource} {after : Table Resource → Store → Prop}
    (isContainers : store.containers.get? database = some containers)
    (holds : after containers store) : Ensures (containersOf database) after failed store := by
  unfold containersOf
  rw [ensures_bind, ensures_get, isContainers]
  exact holds

theorem ensures_shelvesOf {shelves : Table (Table Fields)}
    {after : Table (Table Fields) → Store → Prop}
    (isShelves : store.documents.get? database = some shelves)
    (holds : after shelves store) : Ensures (shelvesOf database) after failed store := by
  unfold shelvesOf
  rw [ensures_bind, ensures_get, isShelves]
  exact holds

/-- A container that is found has a shelf. -/
theorem ensures_findContainer (consistent : Consistent store)
    (fails : ∀ cause, operation.Fails settings store cause → failed cause store)
    (opens : operation.container? = some (database, container))
    (found : ∀ shelf : Shelf store database container, after shelf.owner store) :
    Ensures (findContainer database container) after failed store := by
  unfold findContainer
  rw [ensures_bind]
  refine ensures_findDatabase fails (Operation.database?_of_container? opens)
    fun owner isOwner => ?_
  obtain ⟨containers, shelves, isContainers, -⟩ := consistent.exists_shelved isOwner
  rw [ensures_bind]
  refine ensures_containersOf isContainers ?_
  rw [ensures_demand]
  refine ⟨fun absent => fails _ (.containerMissing opens isContainers absent),
    fun owner isOwner => ?_⟩
  obtain ⟨shelf, rfl⟩ := consistent.exists_shelf isContainers isOwner
  exact found shelf

theorem ensures_documentsOf {shelves : Table (Table Fields)} {documents : Table Fields}
    {after : Table Fields → Store → Prop}
    (isShelves : store.documents.get? database = some shelves)
    (isDocuments : shelves.get? container = some documents) (holds : after documents store) :
    Ensures (documentsOf database container) after failed store := by
  unfold documentsOf
  rw [ensures_bind]
  refine ensures_shelvesOf isShelves ?_
  rw [isDocuments]
  exact holds

theorem ensures_setDocuments {shelves : Table (Table Fields)} {documents : Table Fields}
    {after : Unit → Store → Prop} (isShelves : store.documents.get? database = some shelves)
    (holds : after () (store.fill database (shelves.set container documents))) :
    Ensures (setDocuments database container documents) after failed store := by
  unfold setDocuments
  rw [ensures_bind]
  exact ensures_shelvesOf isShelves holds

/-- Of two changes of the documents on a shelf, the later one counts. -/
theorem ensures_setDocuments_again (shelf : Shelf store database container)
    {first second : Table Fields} {created writes : Nat} {after : Unit → Store → Prop}
    (holds : after () ((shelf.counted created writes).fill second)) :
    Ensures (setDocuments database container second) after failed
      ((shelf.fill first).counted created writes) := by
  have isShelves : ((shelf.fill first).counted created writes).documents.get? database =
      some (shelf.shelves.set container first) := Table.get?_set_self _ _ _
  refine ensures_setDocuments isShelves ?_
  have same : ((shelf.fill first).counted created writes).fill database
      ((shelf.shelves.set container first).set container second) =
      (shelf.counted created writes).fill second := by
    rw [Table.set_set]
    exact congrArg (fun documents => { store with documents, created, writes })
      (Table.set_set store.documents database _ _)
  rw [same]
  exact holds

theorem ensures_documentKey {id : Json} {after : String → Store → Prop}
    (collects : id.IsCollection → failed .unusable store)
    (absent : ¬ id.IsCollection → (∀ key, id ≠ .string key) → failed (.documentMissing id) store)
    (found : ∀ key, id = .string key → after key store) :
    Ensures (documentKey id) after failed store := by
  cases id with
  | string key => exact found key rfl
  | null | bool _ | int _ | float _ => exact absent not_false nofun
  | array _ | object _ => exact collects trivial

/-- A document that is found stands on a shelf. -/
theorem ensures_findDocument (consistent : Consistent store) {id : Json}
    {after : String × Fields → Store → Prop}
    (fails : ∀ cause, operation.Fails settings store cause → failed cause store)
    (opens : operation.container? = some (database, container))
    (wants : operation.wanted? = some id)
    (found : ∀ (shelf : Shelf store database container) key document, id = .string key →
      shelf.documents.get? key = some document → after (key, document) store) :
    Ensures (findDocument database container id) after failed store := by
  unfold findDocument
  rw [ensures_bind]
  refine ensures_findContainer consistent fails opens fun shelf => ?_
  rw [ensures_bind]
  refine ensures_documentsOf shelf.isShelves shelf.isDocuments ?_
  rw [ensures_bind]
  refine ensures_documentKey (fun collects => fails _ (.collection shelf opens wants collects))
    (fun single other => fails _ (.documentMissing shelf opens wants single
      fun key isKey => absurd isKey (other key))) ?_
  rintro key rfl
  rw [ensures_bind, ensures_demand]
  refine ⟨fun absent => fails _ (.documentMissing shelf opens wants not_false ?_),
    fun document => found shelf key document rfl⟩
  rintro _ ⟨⟩
  exact absent

end

/-! ### New names -/

/-- The next identifier that a store gives. -/
def nextRid (store : Store) : String := store.supply.rid (store.created + 1)

/-- The next tag that a store gives. -/
def nextEtag (store : Store) : String := store.supply.etag (store.writes + 1)

theorem ensures_freshRid {after : String → Store → Prop} {failed : StoreError → Store → Prop}
    {store : Store} : Ensures freshRid after failed store ↔
      after (nextRid store) (store.counted (store.created + 1) store.writes) := Iff.rfl

section

variable {now : Int} {container : Resource} {document : Fields} {after : Fields → Store → Prop}
  {failed : StoreError → Store → Prop} {store : Store}

/-- A new document gets a new identifier. -/
theorem ensures_stamped_new : Ensures (stamped now container none document) after failed store ↔
    after (stamp container.selfLink (nextRid store) (nextEtag store) now document)
      (store.counted (store.created + 1) (store.writes + 1)) := Iff.rfl

/-- Any other document keeps the one that it has. -/
theorem ensures_stamped_again {rid : String} :
    Ensures (stamped now container (some rid) document) after failed store ↔
      after (stamp container.selfLink rid (nextEtag store) now document)
        (store.counted store.created (store.writes + 1)) := Iff.rfl

end

/-! ### Databases -/

section

variable {after : Resource → Store → Prop} {failed : StoreError → Store → Prop} {store : Store}
  {settings : QuerySettings} {database : String}

theorem ensures_createDatabase {now : Int} {id : String}
    (fails : ∀ cause, (Operation.createDatabase id).Fails settings store cause → failed cause store)
    (creates : store.databases.get? id = none →
      after (.create .database "" id (nextRid store) now)
        ((store.counted (store.created + 1) store.writes).withDatabase id
          (.create .database "" id (nextRid store) now))) :
    Ensures (createDatabase now id) after failed store := by
  unfold createDatabase
  rw [ensures_bind, ensures_get]
  split
  · next present =>
    obtain ⟨database, found⟩ := Option.isSome_iff_exists.mp present
    exact fails _ (.databaseExists found)
  · next absent => exact creates (Option.not_isSome_iff_eq_none.mp absent)

theorem ensures_deleteDatabase (consistent : Consistent store) {after : Unit → Store → Prop}
    (fails : ∀ cause, (Operation.deleteDatabase database).Fails settings store cause →
      failed cause store)
    (deletes : ∀ owner, store.databases.get? database = some owner →
      after () (store.withoutDatabase database)) :
    Ensures (deleteDatabase database) after failed store := by
  unfold deleteDatabase
  rw [ensures_bind]
  refine ensures_findDatabase fails rfl fun owner isOwner => ?_
  obtain ⟨containers, shelves, isContainers, isShelves, -⟩ := consistent.exists_shelved isOwner
  rw [ensures_bind]
  refine ensures_containersOf isContainers ?_
  rw [ensures_bind, ensures_modify, ensures_bind]
  exact ensures_shelvesOf isShelves (deletes owner isOwner)

theorem ensures_listDatabases {after : Listing Resource → Store → Prop} :
    Ensures listDatabases after failed store ↔
      after (.ofItems "" (store.databases.map Prod.snd)) store := Iff.rfl

/-! ### Containers -/

theorem ensures_createContainer (consistent : Consistent store) {now : Int} {id : String}
    (fails : ∀ cause, (Operation.createContainer database id).Fails settings store cause →
      failed cause store)
    (creates : ∀ owner containers shelves, store.databases.get? database = some owner →
      store.containers.get? database = some containers →
      store.documents.get? database = some shelves → containers.get? id = none →
      after (.create .container (owner.selfLink ++ "/") id (nextRid store) now)
        ((store.counted (store.created + 1) store.writes).shelve database
          (containers.set id (.create .container (owner.selfLink ++ "/") id (nextRid store) now))
          (shelves.set id []))) :
    Ensures (createContainer now database id) after failed store := by
  unfold createContainer
  rw [ensures_bind]
  refine ensures_findDatabase fails rfl fun owner isOwner => ?_
  obtain ⟨containers, shelves, isContainers, isShelves, -⟩ := consistent.exists_shelved isOwner
  rw [ensures_bind]
  refine ensures_containersOf isContainers ?_
  split
  · next present =>
    obtain ⟨container, found⟩ := Option.isSome_iff_exists.mp present
    exact fails _ (.containerExists isContainers found)
  · next absent =>
    rw [ensures_bind, ensures_freshRid]
    unfold setContainers
    rw [ensures_bind, ensures_modify, ensures_bind]
    exact ensures_setDocuments isShelves (creates owner containers shelves isOwner isContainers
      isShelves (Option.not_isSome_iff_eq_none.mp absent))

theorem ensures_listContainers (consistent : Consistent store)
    {after : Listing Resource → Store → Prop}
    (fails : ∀ cause, (Operation.listContainers database).Fails settings store cause →
      failed cause store)
    (lists : ∀ owner containers, store.databases.get? database = some owner →
      store.containers.get? database = some containers →
      after (.ofItems owner.rid (containers.map Prod.snd)) store) :
    Ensures (listContainers database) after failed store := by
  unfold listContainers
  rw [ensures_bind]
  refine ensures_findDatabase fails rfl fun owner isOwner => ?_
  obtain ⟨containers, shelves, isContainers, -⟩ := consistent.exists_shelved isOwner
  rw [ensures_bind]
  exact ensures_containersOf isContainers (lists owner containers isOwner isContainers)

theorem ensures_deleteContainer (consistent : Consistent store) {container : String}
    {after : Unit → Store → Prop}
    (fails : ∀ cause, (Operation.deleteContainer database container).Fails settings store cause →
      failed cause store)
    (deletes : ∀ shelf : Shelf store database container,
      after () (store.shelve database (shelf.containers.erase container)
        (shelf.shelves.erase container))) :
    Ensures (deleteContainer database container) after failed store := by
  unfold deleteContainer
  rw [ensures_bind]
  refine ensures_findContainer consistent fails rfl fun shelf => ?_
  rw [ensures_bind]
  refine ensures_containersOf shelf.isContainers ?_
  unfold setContainers
  rw [ensures_bind, ensures_modify, ensures_bind]
  refine ensures_documentsOf shelf.isShelves shelf.isDocuments ?_
  rw [ensures_bind]
  exact ensures_shelvesOf shelf.isShelves (deletes shelf)

end

/-! ### Documents -/

section

variable {after : Fields → Store → Prop} {failed : StoreError → Store → Prop} {store : Store}
  {settings : QuerySettings} {database container : String}

theorem ensures_submitted {document : Json} {after : String × Fields → Store → Prop}
    (refused : ∀ fault, prepare document = .error fault → failed (.refused fault) store)
    (found : ∀ id prepared, prepare document = .ok (id, prepared) → after (id, prepared) store) :
    Ensures (submitted document) after failed store := by
  unfold submitted
  split
  · next prepared accepted => exact found prepared.1 prepared.2 accepted
  · next fault isFault =>
    rw [ensures_throw]
    exact refused fault isFault

theorem ensures_withId {id : String} {document : Json} {after : Json → Store → Prop}
    (other : (∀ fields, document ≠ .object fields) → failed .unusable store)
    (found : ∀ fields, document = .object fields →
      after (.object (Table.set fields "id" (.string id))) store) :
    Ensures (withId id document) after failed store := by
  cases document with
  | object fields => exact found fields rfl
  | null | bool _ | int _ | float _ | string _ | array _ => exact other nofun

theorem ensures_ridOf {document : Fields} {rid : String} {after : String → Store → Prop}
    (isRid : storedRid? document = some rid) (holds : after rid store) :
    Ensures (ridOf document) after failed store := by
  unfold ridOf
  rw [isRid]
  exact holds

theorem ensures_createDocument (consistent : Consistent store) {now : Int} {document : Json}
    (fails : ∀ cause, (Operation.createDocument database container document).Fails settings store
      cause → failed cause store)
    (creates : ∀ (shelf : Shelf store database container) id prepared,
      prepare document = .ok (id, prepared) → shelf.documents.get? id = none →
      ∀ written,
      written = stamp shelf.owner.selfLink (nextRid store) (nextEtag store) now prepared →
      after written ((shelf.counted (store.created + 1) (store.writes + 1)).fill
        (shelf.documents.set id written))) :
    Ensures (createDocument now database container document) after failed store := by
  unfold createDocument
  rw [ensures_bind]
  refine ensures_findContainer consistent fails rfl fun shelf => ?_
  rw [ensures_bind]
  refine ensures_submitted (fun fault refused => fails _ (.refused shelf rfl rfl refused))
    fun id prepared accepted => ?_
  rw [ensures_bind]
  refine ensures_documentsOf shelf.isShelves shelf.isDocuments ?_
  split
  · next present =>
    obtain ⟨existing, found⟩ := Option.isSome_iff_exists.mp present
    exact fails _ (.documentExists shelf accepted found)
  · next absent =>
    rw [ensures_bind, ensures_stamped_new, ensures_bind]
    exact ensures_setDocuments shelf.isShelves (creates shelf id prepared accepted
      (Option.not_isSome_iff_eq_none.mp absent) _ rfl)

theorem ensures_upsertDocument (consistent : Consistent store) {now : Int} {document : Json}
    (fails : ∀ cause, (Operation.upsertDocument database container document).Fails settings store
      cause → failed cause store)
    (creates : ∀ (shelf : Shelf store database container) id prepared,
      prepare document = .ok (id, prepared) → shelf.documents.get? id = none →
      ∀ written,
      written = stamp shelf.owner.selfLink (nextRid store) (nextEtag store) now prepared →
      after written ((shelf.counted (store.created + 1) (store.writes + 1)).fill
        ((shelf.documents.erase id).set id written)))
    (replaces : ∀ (shelf : Shelf store database container) id prepared existing rid,
      prepare document = .ok (id, prepared) → shelf.documents.get? id = some existing →
      storedRid? existing = some rid →
      ∀ written, written = stamp shelf.owner.selfLink rid (nextEtag store) now prepared →
      after written ((shelf.counted store.created (store.writes + 1)).fill
        ((shelf.documents.erase id).set id written))) :
    Ensures (upsertDocument now database container document) after failed store := by
  unfold upsertDocument
  rw [ensures_bind]
  refine ensures_findContainer consistent fails rfl fun shelf => ?_
  rw [ensures_bind]
  refine ensures_submitted (fun fault refused => fails _ (.refused shelf rfl rfl refused))
    fun id prepared accepted => ?_
  rw [ensures_bind]
  refine ensures_documentsOf shelf.isShelves shelf.isDocuments ?_
  dsimp only
  rw [ensures_bind]
  refine ensures_setDocuments shelf.isShelves ?_
  split
  · next existing found =>
    obtain ⟨rid, isRid⟩ := shelf.exists_rid consistent found
    rw [ensures_bind, ensures_map]
    refine ensures_ridOf isRid ?_
    rw [ensures_bind, ensures_stamped_again, ensures_bind]
    exact ensures_setDocuments_again shelf
      (replaces shelf id prepared existing rid accepted found isRid _ rfl)
  · next absent =>
    rw [ensures_bind, ensures_pure, ensures_bind, ensures_stamped_new, ensures_bind]
    exact ensures_setDocuments_again shelf (creates shelf id prepared accepted absent _ rfl)

theorem ensures_replaceDocument (consistent : Consistent store) {now : Int} {id document : Json}
    (fails : ∀ cause, (Operation.replaceDocument database container id document).Fails settings
      store cause → failed cause store)
    (replaces : ∀ (shelf : Shelf store database container) key existing fields prepared rid,
      id = .string key → shelf.documents.get? key = some existing →
      storedRid? existing = some rid → document = .object fields →
      prepare (.object (Table.set fields "id" (.string key))) = .ok (key, prepared) →
      ∀ written, written = stamp shelf.owner.selfLink rid (nextEtag store) now prepared →
      after written ((shelf.counted store.created (store.writes + 1)).fill
        (shelf.documents.set key written))) :
    Ensures (replaceDocument now database container id document) after failed store := by
  unfold replaceDocument
  rw [ensures_bind]
  refine ensures_findContainer consistent fails rfl fun shelf => ?_
  rw [ensures_bind]
  refine ensures_findDocument consistent fails rfl rfl fun shelf' key existing isKey found => ?_
  obtain rfl := shelf.eq shelf'
  subst isKey
  rw [ensures_bind]
  refine ensures_withId (fun other => fails _ (.unusable shelf found other))
    fun fields isObject => ?_
  subst isObject
  rw [ensures_bind]
  refine ensures_submitted (fun fault refused => fails _ (.unidentified shelf found refused))
    fun id' prepared accepted => ?_
  obtain rfl := eq_of_prepare (Table.get?_set_self fields "id" (.string key)) accepted
  obtain ⟨rid, isRid⟩ := shelf.exists_rid consistent found
  rw [ensures_bind]
  refine ensures_ridOf isRid ?_
  rw [ensures_bind, ensures_stamped_again, ensures_bind]
  refine ensures_documentsOf shelf.isShelves shelf.isDocuments ?_
  rw [ensures_bind]
  exact ensures_setDocuments shelf.isShelves
    (replaces shelf id' existing fields prepared rid rfl found isRid rfl accepted _ rfl)

theorem ensures_deleteDocument (consistent : Consistent store) {id : Json}
    {after : Unit → Store → Prop}
    (fails : ∀ cause, (Operation.deleteDocument database container id).Fails settings store cause →
      failed cause store)
    (deletes : ∀ (shelf : Shelf store database container) key document, id = .string key →
      shelf.documents.get? key = some document →
      after () (shelf.fill (shelf.documents.erase key))) :
    Ensures (deleteDocument database container id) after failed store := by
  unfold deleteDocument
  rw [ensures_bind]
  refine ensures_findDocument consistent fails rfl rfl fun shelf key document isKey found => ?_
  rw [ensures_bind]
  refine ensures_documentsOf shelf.isShelves shelf.isDocuments ?_
  exact ensures_setDocuments shelf.isShelves (deletes shelf key document isKey found)

theorem ensures_listDocuments (consistent : Consistent store)
    {after : Listing Fields → Store → Prop}
    (fails : ∀ cause, (Operation.listDocuments database container).Fails settings store cause →
      failed cause store)
    (lists : ∀ shelf : Shelf store database container,
      after (.ofItems shelf.owner.rid (shelf.documents.map Prod.snd)) store) :
    Ensures (listDocuments database container) after failed store := by
  unfold listDocuments
  rw [ensures_bind]
  refine ensures_findContainer consistent fails rfl fun shelf => ?_
  rw [ensures_bind]
  exact ensures_documentsOf shelf.isShelves shelf.isDocuments (lists shelf)

theorem ensures_queryDocuments (consistent : Consistent store) {asked : PageQuery}
    {after : QueryResult → Store → Prop}
    (fails : ∀ cause, (Operation.query database container asked).Fails settings store cause →
      failed cause store)
    (answers : ∀ (shelf : Shelf store database container) query results,
      Query.ofJson asked.text = .ok query →
      query.execute settings .standard asked.parameters (shelf.documents.map Prod.snd) =
        .ok results →
      ∀ found, found = page results (effectiveSize settings.pageSize.val asked.size) asked.token →
      after ⟨.ofItems shelf.owner.rid found.items, found.next⟩ store) :
    Ensures (queryDocuments settings database container asked) after failed store := by
  unfold queryDocuments
  split
  · next query isQuery =>
    rw [ensures_bind, ensures_pure, ensures_bind]
    refine ensures_findContainer consistent fails rfl fun shelf => ?_
    rw [ensures_bind]
    refine ensures_documentsOf shelf.isShelves shelf.isDocuments ?_
    dsimp only
    split
    · next results isResults => exact answers shelf query results isQuery isResults _ rfl
    · next cause refused => exact fails _ (.unanswered shelf isQuery refused)
  · next cause refused => exact fails _ (.unreadable refused)

end

end Action

/-! ### Steps -/

/-- An operation on a store that succeeds, with its answer and the store after it. -/
inductive Store.Step (store : Store) (settings : QuerySettings) (now : Int) :
    Operation → Outcome → Store → Prop
  | createDatabase {id : String} {database : Resource} (absent : store.databases.get? id = none)
    (isNew : database = .create .database "" id (Action.nextRid store) now) :
    Step store settings now (.createDatabase id) (.resource .database database)
      ((store.counted (store.created + 1) store.writes).withDatabase id database)
  | getDatabase {database : String} {owner : Resource}
    (found : store.databases.get? database = some owner) :
    Step store settings now (.getDatabase database) (.resource .database owner) store
  | listDatabases :
    Step store settings now .listDatabases
      (.resources .database (.ofItems "" (store.databases.map Prod.snd))) store
  | deleteDatabase {database : String} {owner : Resource}
    (found : store.databases.get? database = some owner) :
    Step store settings now (.deleteDatabase database) .done (store.withoutDatabase database)
  | createContainer {database id : String} {owner container : Resource}
    {containers : Table Resource} {shelves : Table (Table Fields)}
    (isContainers : store.containers.get? database = some containers)
    (isShelves : store.documents.get? database = some shelves)
    (absent : containers.get? id = none)
    (isNew : container = .create .container (owner.selfLink ++ "/") id (Action.nextRid store) now) :
    Step store settings now (.createContainer database id) (.resource .container container)
      ((store.counted (store.created + 1) store.writes).shelve database
        (containers.set id container) (shelves.set id []))
  | getContainer {database container : String} (shelf : Shelf store database container) :
    Step store settings now (.getContainer database container)
      (.resource .container shelf.owner) store
  | listContainers {database : String} {owner : Resource} {containers : Table Resource}
    (isContainers : store.containers.get? database = some containers) :
    Step store settings now (.listContainers database)
      (.resources .container (.ofItems owner.rid (containers.map Prod.snd))) store
  | deleteContainer {database container : String} (shelf : Shelf store database container) :
    Step store settings now (.deleteContainer database container) .done
      (store.shelve database (shelf.containers.erase container) (shelf.shelves.erase container))
  | createDocument {database container id : String} {document : Json} {prepared written : Fields}
    (shelf : Shelf store database container) (accepted : prepare document = .ok (id, prepared))
    (absent : shelf.documents.get? id = none)
    (isWritten : written =
      stamp shelf.owner.selfLink (Action.nextRid store) (Action.nextEtag store) now prepared) :
    Step store settings now (.createDocument database container document) (.document written)
      ((shelf.counted (store.created + 1) (store.writes + 1)).fill
        (shelf.documents.set id written))
  | upsertNew {database container id : String} {document : Json} {prepared written : Fields}
    (shelf : Shelf store database container) (accepted : prepare document = .ok (id, prepared))
    (absent : shelf.documents.get? id = none)
    (isWritten : written =
      stamp shelf.owner.selfLink (Action.nextRid store) (Action.nextEtag store) now prepared) :
    Step store settings now (.upsertDocument database container document) (.document written)
      ((shelf.counted (store.created + 1) (store.writes + 1)).fill
        ((shelf.documents.erase id).set id written))
  | upsertAgain {database container id rid : String} {document : Json}
    {prepared existing written : Fields} (shelf : Shelf store database container)
    (accepted : prepare document = .ok (id, prepared))
    (found : shelf.documents.get? id = some existing) (isRid : storedRid? existing = some rid)
    (isWritten : written = stamp shelf.owner.selfLink rid (Action.nextEtag store) now prepared) :
    Step store settings now (.upsertDocument database container document) (.document written)
      ((shelf.counted store.created (store.writes + 1)).fill
        ((shelf.documents.erase id).set id written))
  | getDocument {database container key : String} {document : Fields}
    (shelf : Shelf store database container)
    (found : shelf.documents.get? key = some document) :
    Step store settings now (.getDocument database container (.string key)) (.document document)
      store
  | replaceDocument {database container key rid : String}
    {fields prepared existing written : Fields}
    (shelf : Shelf store database container) (found : shelf.documents.get? key = some existing)
    (isRid : storedRid? existing = some rid)
    (accepted : prepare (.object (Table.set fields "id" (.string key))) = .ok (key, prepared))
    (isWritten : written = stamp shelf.owner.selfLink rid (Action.nextEtag store) now prepared) :
    Step store settings now (.replaceDocument database container (.string key) (.object fields))
      (.document written)
      ((shelf.counted store.created (store.writes + 1)).fill (shelf.documents.set key written))
  | deleteDocument {database container key : String} {document : Fields}
    (shelf : Shelf store database container)
    (found : shelf.documents.get? key = some document) :
    Step store settings now (.deleteDocument database container (.string key)) .done
      (shelf.fill (shelf.documents.erase key))
  | listDocuments {database container : String} (shelf : Shelf store database container) :
    Step store settings now (.listDocuments database container)
      (.documents (.ofItems shelf.owner.rid (shelf.documents.map Prod.snd))) store
  | query {database container : String} {asked : PageQuery} {query : Query}
    {results : List Fields} {found : Page Fields} (shelf : Shelf store database container)
    (isQuery : Query.ofJson asked.text = .ok query)
    (answered : query.execute settings .standard asked.parameters
      (shelf.documents.map Prod.snd) = .ok results)
    (isPage : found = page results (effectiveSize settings.pageSize.val asked.size) asked.token) :
    Step store settings now (.query database container asked)
      (.page ⟨.ofItems shelf.owner.rid found.items, found.next⟩) store
  | clear : Step store settings now .clear .done store.cleared

variable {store : Store}

/-- On a consistent store an operation makes a step, or fails for one of its causes and changes
nothing. -/
theorem Consistent.ensures_step (consistent : Consistent store) (settings : QuerySettings)
    (now : Int) (operation : Operation) :
    (operation.action settings now).Ensures (store.Step settings now operation)
      (fun cause result => operation.Fails settings store cause ∧ result = store) store := by
  have fails : ∀ cause, operation.Fails settings store cause →
      operation.Fails settings store cause ∧ store = store := fun _ failure => ⟨failure, rfl⟩
  unfold Operation.action
  cases operation with
  | createDatabase id =>
    rw [Action.ensures_bind]
    exact Action.ensures_createDatabase fails fun absent => .createDatabase absent rfl
  | getDatabase database =>
    rw [Action.ensures_bind]
    exact Action.ensures_findDatabase fails rfl fun _ found => .getDatabase found
  | listDatabases =>
    rw [Action.ensures_bind, Action.ensures_listDatabases]
    exact .listDatabases
  | deleteDatabase database =>
    rw [Action.ensures_bind]
    exact Action.ensures_deleteDatabase consistent fails fun _ found => .deleteDatabase found
  | createContainer database id =>
    rw [Action.ensures_bind]
    exact Action.ensures_createContainer consistent fails
      fun _ _ _ _ isContainers isShelves absent =>
        .createContainer isContainers isShelves absent rfl
  | getContainer database container =>
    rw [Action.ensures_bind]
    exact Action.ensures_findContainer consistent fails rfl .getContainer
  | listContainers database =>
    rw [Action.ensures_bind]
    exact Action.ensures_listContainers consistent fails
      fun _ _ _ isContainers => .listContainers isContainers
  | deleteContainer database container =>
    rw [Action.ensures_bind]
    exact Action.ensures_deleteContainer consistent fails .deleteContainer
  | createDocument database container document =>
    rw [Action.ensures_bind]
    exact Action.ensures_createDocument consistent fails
      fun shelf _ _ accepted absent _ => .createDocument shelf accepted absent
  | upsertDocument database container document =>
    rw [Action.ensures_bind]
    exact Action.ensures_upsertDocument consistent fails
      (fun shelf _ _ accepted absent _ => .upsertNew shelf accepted absent)
      fun shelf _ _ _ _ accepted found isRid _ => .upsertAgain shelf accepted found isRid
  | getDocument database container id =>
    rw [Action.ensures_bind]
    refine Action.ensures_findDocument consistent fails rfl rfl fun shelf key _ isKey found => ?_
    subst isKey
    exact .getDocument shelf found
  | replaceDocument database container id document =>
    rw [Action.ensures_bind]
    refine Action.ensures_replaceDocument consistent fails
      fun shelf key _ fields _ _ isKey found isRid isObject accepted _ isWritten => ?_
    subst isKey isObject
    exact .replaceDocument shelf found isRid accepted isWritten
  | deleteDocument database container id =>
    rw [Action.ensures_bind]
    refine Action.ensures_deleteDocument consistent fails fun shelf key _ isKey found => ?_
    subst isKey
    exact .deleteDocument shelf found
  | listDocuments database container =>
    rw [Action.ensures_bind]
    exact Action.ensures_listDocuments consistent fails .listDocuments
  | query database container asked =>
    rw [Action.ensures_bind]
    exact Action.ensures_queryDocuments consistent fails
      fun shelf _ _ isQuery answered _ isPage => .query shelf isQuery answered isPage
  | clear => exact .clear

theorem Consistent.perform_cases (consistent : Consistent store) (settings : QuerySettings)
    (now : Int) (operation : Operation) :
    (∃ outcome result, store.perform settings now operation = (.ok outcome, result) ∧
      store.Step settings now operation outcome result) ∨
    ∃ cause, store.perform settings now operation = (.error cause, store) ∧
      operation.Fails settings store cause := by
  have ensured := consistent.ensures_step settings now operation
  unfold Action.Ensures at ensured
  split at ensured
  · next outcome result isOutcome => exact .inl ⟨outcome, result, isOutcome, ensured⟩
  · next cause result isCause =>
    obtain ⟨fails, rfl⟩ := ensured
    exact .inr ⟨cause, isCause, fails⟩

/-- A step leads from a consistent store to another one. -/
theorem Store.Step.consistent {settings : QuerySettings} {now : Int} {operation : Operation}
    {outcome : Outcome} {result : Store} (step : store.Step settings now operation outcome result)
    (consistent : Consistent store) : Consistent result := by
  cases step with
  | createDatabase _ isNew => exact (consistent.counted _ _).withDatabase (isNew ▸ rfl)
  | deleteDatabase _ => exact consistent.withoutDatabase _
  | createContainer isContainers isShelves _ isNew =>
    have shelved := consistent.aligned.related _ _ _ isContainers isShelves
    exact (consistent.counted _ _).shelve isContainers (shelved.add (isNew ▸ rfl))
  | deleteContainer shelf =>
    exact consistent.shelve shelf.isContainers ((shelf.shelved consistent).erase _)
  | createDocument shelf accepted _ isWritten =>
    exact shelf.consistent_write consistent (shelf.filedIn consistent)
      (filed_of_prepare accepted isWritten) _ _
  | upsertNew shelf accepted _ isWritten | upsertAgain shelf accepted _ _ isWritten =>
    exact shelf.consistent_write consistent ((shelf.filedIn consistent).erase _)
      (filed_of_prepare accepted isWritten) _ _
  | replaceDocument shelf _ _ accepted isWritten =>
    exact shelf.consistent_write consistent (shelf.filedIn consistent)
      (filed_of_prepare accepted isWritten) _ _
  | deleteDocument shelf _ =>
    exact shelf.consistent_fill consistent ((shelf.filedIn consistent).erase _)
  | clear => exact consistent_cleared store
  | getDatabase _ | listDatabases | getContainer _ | listContainers _ | getDocument _ _
  | listDocuments _ | query _ _ _ _ => exact consistent

/-! ### Runs -/

/-- **A store stays consistent**, whatever it is asked and whether that fails or not, and nothing
fails because its tables disagree. -/
theorem Consistent.step (consistent : Consistent store) (settings : QuerySettings)
    (now : Int) (operation : Operation) :
    Consistent (store.perform settings now operation).2 ∧
      (store.perform settings now operation).1 ≠ .error .dangling := by
  obtain ⟨outcome, result, performed, step⟩ | ⟨cause, performed, fails⟩ :=
    consistent.perform_cases settings now operation
  · rw [performed]
    exact ⟨step.consistent consistent, nofun⟩
  · rw [performed]
    refine ⟨consistent, ?_⟩
    rintro ⟨⟩
    exact fails.ne_dangling rfl

/-- A store that arises from an empty one by operations, whether they fail or not. It may take its
identifiers from any supply. -/
inductive Store.Reachable : Store → Prop
  | fresh (supply : IdSupply) : Reachable { supply }
  | perform {store : Store} (reachable : Reachable store) (settings : QuerySettings) (now : Int)
    (operation : Operation) : Reachable (store.perform settings now operation).2

theorem Store.Reachable.consistent {store : Store} (reachable : store.Reachable) :
    Consistent store := by
  induction reachable with
  | fresh supply => exact consistent_cleared { supply }
  | perform _ settings now operation ih => exact (ih.step settings now operation).1

namespace Store

/-- **The tables of a store never drift apart.** After any operations, whether they failed or not,
they are consistent, and nothing that is asked then fails because they are not. -/
theorem reachable_consistent {store : Store} (reachable : store.Reachable) :
    Consistent store ∧ ∀ settings now operation,
      (store.perform settings now operation).1 ≠ .error .dangling :=
  ⟨reachable.consistent, fun settings now operation =>
    (reachable.consistent.step settings now operation).2⟩

/-- A store after some operations. -/
def after (operations : List Operation) : Store :=
  operations.foldl (fun store operation => (store.perform {} 0 operation).2) {}

theorem reachable_after (operations : List Operation) : (after operations).Reachable := by
  unfold after
  have reachable := Reachable.fresh .counting
  revert reachable
  generalize ({} : Store) = store
  induction operations generalizing store with
  | nil => exact id
  | cons operation more ih => exact fun reachable => ih _ (reachable.perform {} 0 operation)

/-- A store that holds a document, which was written twice. -/
theorem reachable_consistent_filled :
    ∃ store : Store, (((store.documents.get? "d").bind (Table.get? · "c")).bind
      (Table.get? · "1")).isSome ∧ Consistent store ∧ ∀ settings now operation,
        (store.perform settings now operation).1 ≠ .error .dangling :=
  ⟨after [.createDatabase "d", .createContainer "d" "c",
    .createDocument "d" "c" (.object [("Id", .int 1)]),
    .upsertDocument "d" "c" (.object [("id", .string "1")]), .deleteDatabase "e"],
    by decide +kernel, reachable_consistent (reachable_after _)⟩

end Store

/-! ### Nothing changes -/

/-- **Operations that fail change nothing**, and neither do queries. Databases, containers and
documents, their order, and even the counts behind new identifiers are what they were. -/
theorem Store.perform_unchanged (reachable : store.Reachable) (settings : QuerySettings)
    (now : Int) (operation : Operation) :
    (∀ cause, (store.perform settings now operation).1 = .error cause →
      (store.perform settings now operation).2 = store) ∧
    ∀ database container asked, operation = .query database container asked →
      (store.perform settings now operation).2 = store := by
  obtain ⟨outcome, result, performed, step⟩ | ⟨cause, performed, -⟩ :=
    reachable.consistent.perform_cases settings now operation
  · rw [performed]
    constructor
    · intro cause failed
      cases failed
    · rintro database container asked rfl
      cases step
      rfl
  · rw [performed]
    exact ⟨fun _ _ => rfl, fun _ _ _ _ => rfl⟩

/-- A store that holds one document. -/
def Store.oneDocument : Store :=
  .after [.createDatabase "d", .createContainer "d" "c",
    .createDocument "d" "c" (.object [("Id", .int 1)])]

/-- A document whose identifier is taken. -/
theorem Store.perform_unchanged_conflict :
    oneDocument.perform {} 0 (.createDocument "d" "c" (.object [("id", .string "1")])) =
      (.error (.documentExists "1"), oneDocument) := by
  have conflict : (oneDocument.perform {} 0
      (.createDocument "d" "c" (.object [("id", .string "1")]))).1 =
        .error (.documentExists "1") := rfl
  exact Prod.ext conflict ((perform_unchanged (reachable_after _) {} 0 _).1 _ conflict)

end DocQuery
