/-
**The store keeps a catalogue.**

* `Store.catalog`: the catalogue of what a store holds, and `Outcome.report`: what an answer
  reports of it;
* `Catalog.entryOf_eq`: a store accepts the documents that a catalogue accepts;
* `Store.Step.perform_catalog`, `Operation.Fails.perform_catalog`: an operation does to the
  catalogue what it does to the store, and fails for the same cause;
* `Store.Refines`: a store answers as a catalogue does. `Store.run_refines` says that it does so
  after any calls.
-/

import DocQuery.Proofs.Store.Catalog
import DocQuery.Proofs.Store.Run

namespace DocQuery

/-! ### The catalogue of a store -/

/-- The documents of a container with the fields that users gave them. -/
def visible (documents : Table Fields) : Table Fields := documents.mapValues Catalog.ownFields

/-- The catalogue of the documents in a store. -/
def catalogOf (documents : Table (Table (Table Fields))) : Catalog :=
  documents.mapValues (Table.mapValues visible)

/-- The catalogue of what a store holds. -/
def Store.catalog (store : Store) : Catalog := catalogOf store.documents

/-- What an answer reports of identifiers and of the fields that users gave. -/
def Outcome.report : Outcome → Report
  | .done => .done
  | .resource _ found => .name found.id
  | .resources _ listing => .names (listing.items.map Resource.id)
  | .document written => .document (Catalog.nameOf? written) (Catalog.ownFields written)
  | .documents listing => .documents (listing.items.map fun document =>
    (Catalog.nameOf? document, Catalog.ownFields document))
  | .page _ => .page

/-! ### How documents are read -/

namespace Catalog

theorem ownFields_eq (document : Fields) : ownFields document = userFields document := by
  refine List.filter_congr fun field _ => ?_
  rw [← List.elem_eq_contains, List.elem_eq_mem, decide_not]
  rfl

theorem identifier?_eq (document : Fields) :
    identifier? document = identifierValue? document := by
  simp only [identifier?, identifierValue?, given?, List.findSome?_cons, List.findSome?_nil]
  generalize document.get? "id" = first
  generalize document.get? "Id" = second
  obtain _ | _ | _ := first <;> obtain _ | _ | _ := second <;> rfl

theorem toText?_eq {value : Json} (some : value ≠ .null) :
    (Operand.json value).toText? = identifierText value := by
  cases value with
  | null => exact absurd rfl some
  | _ => rfl

theorem nameOf?_eq (document : Fields) : nameOf? document = documentId? document := by
  rw [nameOf?, documentId?, identifier?_eq]
  cases found : identifierValue? document with
  | none => rfl
  | some value => exact (toText?_eq (identifierValue?_ne_null found)).symm

/-- **A store accepts the documents that a catalogue accepts**, with the same fields under the same
identifier, and refuses any other for the same fault. -/
theorem entryOf_eq (document : Json) : entryOf document = (prepare document).mapError .refused := by
  cases document with
  | object fields =>
    simp only [entryOf, prepare, identifier?_eq, ownFields_eq]
    cases found : identifierValue? (userFields fields) with
    | none => rfl
    | some identifier =>
      have text := toText?_eq (identifierValue?_ne_null found)
      simp only [documentId?, found, Option.bind_some, text, withIdField_eq_set found,
        String.isEmpty_iff]
      split <;> rfl
  | null | bool _ | int _ | float _ | string _ | array _ => rfl

theorem entryOf_of_prepare {document : Json} {entry : String × Fields}
    (accepted : prepare document = .ok entry) : entryOf document = .ok entry := by
  rw [entryOf_eq, accepted]
  rfl

theorem entryOf_of_refused {document : Json} {fault : DocumentFault}
    (refused : prepare document = .error fault) : entryOf document = .error (.refused fault) := by
  rw [entryOf_eq, refused]
  rfl

end Catalog

section

variable {store result : Store} {database container : String}

/-! ### Entries -/

theorem Consistent.keys_catalog (consistent : Consistent store) :
    store.catalog.keys = store.databases.keys := by
  rw [Store.catalog, catalogOf, Table.keys_mapValues, consistent.keys_documents]

theorem Consistent.containersOf_missing (consistent : Consistent store)
    (absent : store.databases.get? database = none) :
    store.catalog.containersOf database = .error (.databaseMissing database) := by
  rw [Table.get?_eq_none, ← consistent.keys_documents, ← Table.get?_eq_none] at absent
  refine Catalog.lookUp_of_get?_none ?_ _
  rw [Store.catalog, catalogOf, Table.get?_mapValues, absent]
  rfl

theorem containersOf_found {shelves : Table (Table Fields)}
    (isShelves : store.documents.get? database = some shelves) :
    store.catalog.containersOf database = .ok (shelves.mapValues visible) := by
  refine Catalog.lookUp_of_get? ?_ _
  rw [Store.catalog, catalogOf, Table.get?_mapValues, isShelves]
  rfl

theorem documentsOf_missing {shelves : Table (Table Fields)}
    (isShelves : store.documents.get? database = some shelves)
    (absent : shelves.get? container = none) :
    store.catalog.documentsOf database container =
      .error (.containerMissing database container) := by
  rw [Catalog.documentsOf, containersOf_found isShelves]
  refine Catalog.lookUp_of_get?_none ?_ _
  rw [Table.get?_mapValues, absent]
  rfl

namespace Shelf

variable (shelf : Shelf store database container)

theorem documentsOf_eq :
    store.catalog.documentsOf database container = .ok (visible shelf.documents) := by
  rw [Catalog.documentsOf, containersOf_found shelf.isShelves]
  refine Catalog.lookUp_of_get? ?_ _
  rw [Table.get?_mapValues, shelf.isDocuments]
  rfl

theorem documentOf_found {key : String} {document : Fields}
    (found : shelf.documents.get? key = some document) :
    store.catalog.documentOf database container (.string key) = .ok (key, Catalog.ownFields document) := by
  have seen : (visible shelf.documents).get? key = some (Catalog.ownFields document) := by
    rw [visible, Table.get?_mapValues, found]
    rfl
  rw [Catalog.documentOf, shelf.documentsOf_eq]
  show (do return (key, ← Catalog.lookUp (visible shelf.documents) key _)) = _
  rw [Catalog.lookUp_of_get? seen]
  rfl

theorem documentOf_missing {id : Json} (single : ¬ id.IsCollection)
    (absent : ∀ key, id = .string key → shelf.documents.get? key = none) :
    store.catalog.documentOf database container id = .error (.documentMissing id) := by
  rw [Catalog.documentOf, shelf.documentsOf_eq]
  cases id with
  | string key =>
    have unseen : (visible shelf.documents).get? key = none := by
      rw [visible, Table.get?_mapValues, absent key rfl]
      rfl
    show (do return (key, ← Catalog.lookUp (visible shelf.documents) key _)) = _
    rw [Catalog.lookUp_of_get?_none unseen]
    rfl
  | null | bool _ | int _ | float _ => rfl
  | array _ | object _ => exact absurd trivial single

include shelf in
theorem documentOf_collection {id : Json} (collects : id.IsCollection) :
    store.catalog.documentOf database container id = .error .unusable := by
  rw [Catalog.documentOf, shelf.documentsOf_eq]
  cases id with
  | array _ | object _ => rfl
  | null | bool _ | int _ | float _ | string _ => exact collects.elim

end Shelf

/-! ### Changes -/

/-- An entry of the catalogue changes with the documents of its database. -/
theorem Consistent.catalog_alter (consistent : Consistent store)
    {shelves changed : Table (Table Fields)}
    (isShelves : store.documents.get? database = some shelves)
    {change : Table (Table Fields) → Table (Table Fields)}
    (same : change (shelves.mapValues visible) = changed.mapValues visible) :
    store.catalog.alter database change = catalogOf (store.documents.set database changed) := by
  have distinct : store.catalog.Distinct := by
    unfold Table.Distinct
    rw [consistent.keys_catalog]
    exact consistent.distinct
  have found : store.catalog.get? database = some (shelves.mapValues visible) := by
    rw [Store.catalog, catalogOf, Table.get?_mapValues, isShelves]
    rfl
  rw [← Table.set_eq_alter distinct found same]
  exact (Table.mapValues_set _ store.documents database changed).symm

/-- The documents of a container in the catalogue change with those on its shelf. -/
theorem Shelf.catalog_amend (shelf : Shelf store database container)
    (consistent : Consistent store) {documents : Table Fields}
    {change : Table Fields → Table Fields}
    (same : change (visible shelf.documents) = visible documents) :
    store.catalog.amend database container change =
      catalogOf (store.documents.set database (shelf.shelves.set container documents)) := by
  refine consistent.catalog_alter shelf.isShelves ?_
  have distinct : (shelf.shelves.mapValues visible).Distinct := by
    unfold Table.Distinct
    rw [Table.keys_mapValues, (shelf.shelved consistent).aligned.keys]
    exact (shelf.shelved consistent).distinct
  have found : (shelf.shelves.mapValues visible).get? container =
      some (visible shelf.documents) := by
    rw [Table.get?_mapValues, shelf.isDocuments]
    rfl
  rw [Table.mapValues_set]
  exact (Table.set_eq_alter distinct found same).symm

end

/-! ### Operations that fail -/

/-- An operation asks a query. -/
def Operation.IsQuery : Operation → Prop
  | .query .. => True
  | _ => False

namespace Catalog

variable {catalog : Catalog} {operation : Operation} {database container : String}
  {cause : StoreError}

theorem perform_of_containersOf (opens : operation.database? = some database)
    (other : ¬ operation.IsQuery) (missing : catalog.containersOf database = .error cause) :
    catalog.perform operation = .error cause := by
  have within (container : String) : catalog.documentsOf database container = .error cause := by
    rw [documentsOf, missing]
    rfl
  have wanted (container : String) (id : Json) :
      catalog.documentOf database container id = .error cause := by
    rw [documentOf, within]
    rfl
  cases operation <;> cases opens
  case query.refl => exact absurd trivial other
  all_goals
    simp only [perform, missing, within, wanted]
    rfl

theorem perform_of_documentsOf (opens : operation.container? = some (database, container))
    (other : ¬ operation.IsQuery)
    (missing : catalog.documentsOf database container = .error cause) :
    catalog.perform operation = .error cause := by
  have wanted (id : Json) : catalog.documentOf database container id = .error cause := by
    rw [documentOf, missing]
    rfl
  cases operation <;> cases opens
  case query.refl => exact absurd trivial other
  all_goals
    simp only [perform, missing, wanted]
    rfl

theorem perform_of_documentOf {id : Json}
    (opens : operation.container? = some (database, container))
    (wants : operation.wanted? = some id)
    (missing : catalog.documentOf database container id = .error cause) :
    catalog.perform operation = .error cause := by
  cases operation <;> cases opens <;> cases wants
  all_goals
    simp only [perform, missing]
    rfl

theorem perform_of_entryOf {document : Json} {documents : Table Fields}
    (opens : operation.container? = some (database, container))
    (submits : operation.submitted? = some document)
    (found : catalog.documentsOf database container = .ok documents)
    (refused : entryOf document = .error cause) : catalog.perform operation = .error cause := by
  cases operation <;> cases opens <;> cases submits
  all_goals
    simp only [perform, found, refused]
    rfl

end Catalog

section

variable {store : Store} {settings : QuerySettings} {operation : Operation}

/-- What fails on a store fails on its catalogue for the same cause. -/
theorem Operation.Fails.perform_catalog {cause : StoreError}
    (fails : operation.Fails settings store cause) (consistent : Consistent store)
    (other : ¬ operation.IsQuery) : store.catalog.perform operation = .error cause := by
  cases fails with
  | @databaseExists id database found =>
    have present : id ∈ store.catalog.keys := by
      rw [consistent.keys_catalog]
      exact Table.mem_keys.mpr ⟨database, found⟩
    exact if_pos present
  | databaseMissing opens absent =>
    exact Catalog.perform_of_containersOf opens other (consistent.containersOf_missing absent)
  | @containerExists database id containers container isContainers found =>
    obtain ⟨shelf, -⟩ := consistent.exists_shelf isContainers found
    have present : id ∈ (shelf.shelves.mapValues visible).keys := by
      rw [Table.keys_mapValues]
      exact Table.mem_keys.mpr ⟨shelf.documents, shelf.isDocuments⟩
    simp only [Catalog.perform, containersOf_found shelf.isShelves]
    exact if_pos present
  | containerMissing opens isContainers absent =>
    obtain ⟨shelves, isShelves, shelved⟩ := consistent.aligned.exists_get? isContainers
    refine Catalog.perform_of_documentsOf opens other (documentsOf_missing isShelves ?_)
    rw [Table.get?_eq_none, shelved.aligned.keys]
    exact Table.get?_eq_none.mp absent
  | collection shelf opens wants collects =>
    exact Catalog.perform_of_documentOf opens wants (shelf.documentOf_collection collects)
  | documentMissing shelf opens wants single absent =>
    exact Catalog.perform_of_documentOf opens wants (shelf.documentOf_missing single absent)
  | refused shelf opens submits refused =>
    exact Catalog.perform_of_entryOf opens submits shelf.documentsOf_eq
      (Catalog.entryOf_of_refused refused)
  | @documentExists _ _ _ id _ existing shelf accepted found =>
    have present : id ∈ (visible shelf.documents).keys := by
      rw [visible, Table.keys_mapValues]
      exact Table.mem_keys.mpr ⟨existing, found⟩
    simp only [Catalog.perform, shelf.documentsOf_eq, Catalog.entryOf_of_prepare accepted]
    exact if_pos present
  | @unusable _ _ _ document _ shelf found others =>
    simp only [Catalog.perform, shelf.documentOf_found found]
    cases document with
    | object fields => exact absurd rfl (others fields)
    | null | bool _ | int _ | float _ | string _ | array _ => rfl
  | unidentified shelf found refused =>
    simp only [Catalog.perform, shelf.documentOf_found found]
    show (Catalog.entryOf _ >>= _) = _
    rw [Catalog.entryOf_of_refused refused]
    rfl
  | unreadable _ | unanswered _ _ _ => exact absurd trivial other

/-! ### Operations that succeed -/

/-- Resources that stand under their own identifiers are listed by their keys. -/
theorem map_id_of_named {resources : Table Resource} (distinct : resources.Distinct)
    (named : resources.Each fun id resource => resource.id = id) :
    (resources.map Prod.snd).map Resource.id = resources.keys := by
  rw [List.map_map]
  exact List.map_congr_left fun entry member => named _ _ (distinct.get?_of_mem member)

/-- A document that is filed shows the identifier under which it is filed. -/
theorem Filed.nameOf?_eq {container : Resource} {id : String} {document : Fields}
    (filed : Filed container id document) : Catalog.nameOf? document = some id :=
  (Catalog.nameOf?_eq document).trans filed.identified

/-- What a document that is written shows is what was submitted. -/
theorem shown_of_prepare {container : Resource} {rid etag id : String} {now : Int}
    {document : Json} {prepared written : Fields}
    (accepted : prepare document = .ok (id, prepared))
    (isWritten : written = stamp container.selfLink rid etag now prepared) :
    Catalog.nameOf? written = some id ∧ Catalog.ownFields written = prepared := by
  refine ⟨(filed_of_prepare accepted isWritten).nameOf?_eq, ?_⟩
  rw [Catalog.ownFields_eq, isWritten, userFields_stamp (own_of_prepare accepted)]

/-- A document that is written under a new identifier is seen behind all others. -/
theorem visible_set_new {documents : Table Fields} {id : String} {written : Fields}
    (absent : documents.get? id = none) :
    visible (documents.set id written) = visible documents ++ [(id, Catalog.ownFields written)] := by
  rw [Table.set_of_get?_none absent]
  exact List.map_append

/-- A document that is written anew is seen behind all others. -/
theorem visible_set_last (documents : Table Fields) (id : String) (written : Fields) :
    visible ((documents.erase id).set id written) =
      (visible documents).erase id ++ [(id, Catalog.ownFields written)] := by
  rw [visible_set_new (Table.get?_erase_self documents id)]
  exact congrArg (· ++ _) (Table.mapValues_erase Catalog.ownFields documents id)

/-- A document that is replaced is seen in its place. -/
theorem visible_set_in_place {documents : Table Fields} (distinct : documents.Distinct)
    {id : String} {existing : Fields} (found : documents.get? id = some existing)
    (written : Fields) :
    visible (documents.set id written) =
      (visible documents).alter id fun _ => Catalog.ownFields written := by
  have seen : (visible documents).get? id = some (Catalog.ownFields existing) := by
    rw [visible, Table.get?_mapValues, found]
    rfl
  have distinct' : (visible documents).Distinct := by
    unfold Table.Distinct
    rw [visible, Table.keys_mapValues]
    exact distinct
  rw [← Table.set_eq_alter distinct' seen rfl]
  exact Table.mapValues_set Catalog.ownFields documents id written

/-- **A step does to the catalogue what it does to the store.** -/
theorem Store.Step.perform_catalog {now : Int} {outcome : Outcome} {result : Store}
    (step : store.Step settings now operation outcome result) (consistent : Consistent store) :
    store.catalog.perform operation = .ok (outcome.report, result.catalog) := by
  cases step with
  | @createDatabase id _ absent isNew =>
    subst isNew
    have new : id ∉ store.catalog.keys := by
      rw [consistent.keys_catalog]
      exact Table.get?_eq_none.mp absent
    refine (if_neg new).trans (congrArg (fun catalog => Except.ok (Report.name id, catalog)) ?_)
    rw [← Table.set_of_get?_none (Table.get?_eq_none.mpr new)]
    exact (Table.mapValues_set _ store.documents id []).symm
  | getDatabase found =>
    obtain ⟨-, shelves, -, isShelves, -⟩ := consistent.exists_shelved found
    simp only [Catalog.perform, containersOf_found isShelves, Outcome.report,
      consistent.named _ _ found]
    rfl
  | listDatabases =>
    simp only [Catalog.perform, Outcome.report, consistent.keys_catalog, Listing.ofItems,
      map_id_of_named consistent.distinct consistent.named]
  | deleteDatabase found =>
    obtain ⟨-, shelves, -, isShelves, -⟩ := consistent.exists_shelved found
    simp only [Catalog.perform, containersOf_found isShelves, Outcome.report]
    exact congrArg (fun catalog => Except.ok (Report.done, catalog))
      (Table.mapValues_erase _ store.documents _).symm
  | @createContainer _ id _ _ _ shelves isContainers isShelves absent isNew =>
    subst isNew
    have shelved := consistent.aligned.related _ _ _ isContainers isShelves
    have new : (shelves.mapValues visible).get? id = none := by
      rw [Table.get?_eq_none, Table.keys_mapValues, shelved.aligned.keys]
      exact Table.get?_eq_none.mp absent
    have changed : store.catalog.alter _ (· ++ [(id, [])]) = catalogOf _ :=
      consistent.catalog_alter isShelves
        (((Table.mapValues_set visible shelves id []).trans (Table.set_of_get?_none new [])).symm)
    simp only [Catalog.perform, containersOf_found isShelves, changed]
    exact if_neg (Table.get?_eq_none.mp new)
  | getContainer shelf =>
    have named := (shelf.shelved consistent).named _ _ shelf.isOwner
    simp only [Catalog.perform, shelf.documentsOf_eq, Outcome.report, named]
    rfl
  | listContainers isContainers =>
    obtain ⟨shelves, isShelves, shelved⟩ := consistent.aligned.exists_get? isContainers
    simp only [Catalog.perform, containersOf_found isShelves, Outcome.report, Listing.ofItems,
      map_id_of_named shelved.distinct shelved.named, ← shelved.aligned.keys,
      ← Table.keys_mapValues visible shelves]
    rfl
  | @deleteContainer _ container shelf =>
    have changed : store.catalog.alter _ (·.erase container) = catalogOf _ :=
      consistent.catalog_alter shelf.isShelves
        (Table.mapValues_erase visible shelf.shelves container).symm
    simp only [Catalog.perform, shelf.documentsOf_eq, changed]
    rfl
  | @createDocument _ _ id _ _ written shelf accepted absent isWritten =>
    obtain ⟨identified, rfl⟩ := shown_of_prepare accepted isWritten
    have new : id ∉ (visible shelf.documents).keys := by
      rw [visible, Table.keys_mapValues]
      exact Table.get?_eq_none.mp absent
    have changed : store.catalog.amend _ _ (· ++ [(id, Catalog.ownFields written)]) = catalogOf _ :=
      shelf.catalog_amend consistent (visible_set_new absent).symm
    simp only [Catalog.perform, shelf.documentsOf_eq, Catalog.entryOf_of_prepare accepted,
      ok_bind, Outcome.report, identified, changed]
    exact if_neg new
  | @upsertNew _ _ id _ _ written shelf accepted _ isWritten
  | @upsertAgain _ _ id _ _ _ _ written shelf accepted _ _ isWritten =>
    obtain ⟨identified, rfl⟩ := shown_of_prepare accepted isWritten
    have changed : store.catalog.amend _ _ (·.erase id ++ [(id, Catalog.ownFields written)]) =
        catalogOf _ :=
      shelf.catalog_amend consistent (visible_set_last shelf.documents id written).symm
    simp only [Catalog.perform, shelf.documentsOf_eq, Catalog.entryOf_of_prepare accepted,
      ok_bind, Outcome.report, identified, changed]
    rfl
  | getDocument shelf found =>
    have identified := ((shelf.filedIn consistent).filed _ _ found).nameOf?_eq
    simp only [Catalog.perform, shelf.documentOf_found found, Outcome.report, identified]
    rfl
  | @replaceDocument _ _ key _ _ _ _ written shelf found _ accepted isWritten =>
    obtain ⟨identified, rfl⟩ := shown_of_prepare accepted isWritten
    have changed : store.catalog.amend _ _ (·.alter key fun _ => Catalog.ownFields written) =
        catalogOf _ :=
      shelf.catalog_amend consistent
        (visible_set_in_place (shelf.filedIn consistent).distinct found written).symm
    simp only [Catalog.perform, shelf.documentOf_found found,
      Catalog.entryOf_of_prepare accepted, ok_bind, Outcome.report, identified, changed]
    rfl
  | @deleteDocument _ _ key _ shelf found =>
    have changed : store.catalog.amend _ _ (·.erase key) = catalogOf _ :=
      shelf.catalog_amend consistent (Table.mapValues_erase Catalog.ownFields shelf.documents key).symm
    simp only [Catalog.perform, shelf.documentOf_found found, ok_bind, changed]
    rfl
  | listDocuments shelf =>
    have shown : (visible shelf.documents).map (fun entry => (some entry.1, entry.2)) =
        (shelf.documents.map Prod.snd).map fun document =>
          (Catalog.nameOf? document, Catalog.ownFields document) := by
      rw [visible, Table.mapValues, List.map_map, List.map_map]
      refine List.map_congr_left fun entry member => ?_
      have found := (shelf.filedIn consistent).distinct.get?_of_mem member
      have identified := ((shelf.filedIn consistent).filed _ _ found).nameOf?_eq
      exact congrArg (·, Catalog.ownFields entry.2) identified.symm
    simp only [Catalog.perform, shelf.documentsOf_eq, Outcome.report, Listing.ofItems, ← shown]
    rfl
  | query _ _ _ _ | clear => rfl

end

/-! ### Runs -/

/-- An answer reports what is expected. Of the answers to queries nothing is expected. -/
def Operation.Reports (operation : Operation) (answer : Except StoreError Outcome)
    (expected : Except StoreError Report) : Prop :=
  ¬ operation.IsQuery → answer.map Outcome.report = expected

theorem Catalog.next_of_isQuery {operation : Operation} (asks : operation.IsQuery)
    (catalog : Catalog) : catalog.next operation = catalog := by
  cases operation with
  | query _ _ _ => rfl
  | _ => exact asks.elim

section

variable {store : Store} {database container : String}

/-- What a call reports and what it leaves behind is what the catalogue says. -/
theorem Consistent.catalog_next (consistent : Consistent store) (call : Call) :
    call.operation.Reports (store.answer call) (store.catalog.answer call.operation) ∧
      (store.next call).catalog = store.catalog.next call.operation := by
  unfold Store.answer Store.next
  obtain ⟨outcome, result, performed, step⟩ | ⟨cause, performed, fails⟩ :=
    consistent.perform_cases call.settings call.now call.operation
  · have told := step.perform_catalog consistent
    rw [performed, Catalog.answer, Catalog.next, told]
    exact ⟨fun _ => rfl, rfl⟩
  · rw [performed]
    by_cases asks : call.operation.IsQuery
    · exact ⟨fun other => absurd asks other, (Catalog.next_of_isQuery asks store.catalog).symm⟩
    · have told := fails.perform_catalog consistent asks
      rw [Catalog.answer, Catalog.next, told]
      exact ⟨fun _ => rfl, rfl⟩

/-- After several calls a store holds what its catalogue says. -/
theorem Store.Reachable.catalog_run (reachable : store.Reachable) (calls : List Call) :
    (store.run calls).catalog = store.catalog.run (calls.map Call.operation) := by
  induction calls generalizing store with
  | nil => rfl
  | cons call more ih =>
    have step := (reachable.consistent.catalog_next call).2
    exact (ih (reachable.next call)).trans (congrArg (Catalog.run · _) step)

/-- The containers of the catalogue are those of the store. -/
theorem shelves_of_containersOf {containers : Table (Table Fields)}
    (found : store.catalog.containersOf database = .ok containers) :
    ∃ shelves, store.documents.get? database = some shelves ∧
      shelves.mapValues visible = containers := by
  have isContainers := Catalog.get?_of_lookUp found
  rw [Store.catalog, catalogOf, Table.get?_mapValues] at isContainers
  exact Option.map_eq_some_iff.mp isContainers

/-- The documents of the catalogue are those of the store. -/
theorem contents?_of_documentsOf {documents : Table Fields}
    (found : store.catalog.documentsOf database container = .ok documents) :
    ∃ held, store.contents? database container = some held ∧ visible held = documents := by
  obtain ⟨containers, within, isDocuments⟩ := bind_eq_ok.mp found
  obtain ⟨shelves, isShelves, rfl⟩ := shelves_of_containersOf within
  have seen := Catalog.get?_of_lookUp isDocuments
  rw [Table.get?_mapValues] at seen
  obtain ⟨held, isHeld, same⟩ := Option.map_eq_some_iff.mp seen
  refine ⟨held, ?_, same⟩
  rw [Store.contents?, isShelves]
  exact isHeld

/-- The catalogue of a consistent store is orderly. -/
theorem Consistent.orderly (consistent : Consistent store) : store.catalog.Orderly where
  databases := by
    rw [consistent.keys_catalog]
    exact consistent.distinct
  containers database containers found := by
    obtain ⟨shelves, isShelves, rfl⟩ := shelves_of_containersOf found
    have present : database ∈ store.containers.keys :=
      consistent.aligned.keys ▸ Table.mem_keys.mpr ⟨shelves, isShelves⟩
    obtain ⟨resources, isContainers⟩ := Table.mem_keys.mp present
    have shelved := consistent.aligned.related _ _ _ isContainers isShelves
    rw [Table.keys_mapValues, shelved.aligned.keys]
    exact shelved.distinct
  documents database container documents found := by
    obtain ⟨held, isHeld, rfl⟩ := contents?_of_documentsOf found
    obtain ⟨shelf, rfl⟩ := consistent.shelf_of_contents? isHeld
    rw [visible, Table.keys_mapValues]
    exact (shelf.filedIn consistent).distinct

/-- What does not disturb a container leaves its entry in the catalogue as it is. -/
theorem Consistent.documentsOf_next (consistent : Consistent store) {documents : Table Fields}
    (found : store.catalog.documentsOf database container = .ok documents) (call : Call)
    (spared : ¬ call.operation.Disturbs database container) :
    (store.next call).catalog.documentsOf database container = .ok documents := by
  obtain ⟨held, isHeld, rfl⟩ := contents?_of_documentsOf found
  have kept := consistent.contents?_perform isHeld call spared
  have later : Consistent (store.next call) :=
    (consistent.step call.settings call.now call.operation).1
  obtain ⟨shelf, rfl⟩ := later.shelf_of_contents? kept
  exact shelf.documentsOf_eq

/-- A store answers as a catalogue does: whatever is asked reports the identifiers and fields, or
the cause of failure, that the catalogue gives. In each place of the catalogue identifiers are
distinct, what is created begins empty, nothing stays below what is deleted, and what does not
disturb a container leaves it as it is. -/
structure Store.Refines (store : Store) (catalog : Catalog) : Prop where
  reports : ∀ call : Call,
    call.operation.Reports (store.answer call) (catalog.answer call.operation)
  orderly : catalog.Orderly
  fresh : catalog.Fresh
  undisturbed : ∀ operation database container documents,
    catalog.documentsOf database container = .ok documents →
    ¬ Operation.Disturbs database container operation →
    (catalog.next operation).documentsOf database container = .ok documents

theorem Consistent.refines (consistent : Consistent store) : store.Refines store.catalog where
  reports call := (consistent.catalog_next call).1
  orderly := consistent.orderly
  fresh := store.catalog.fresh
  undisturbed operation database container documents found spared := by
    have kept := consistent.documentsOf_next found ⟨{}, 0, operation⟩ spared
    rwa [(consistent.catalog_next ⟨{}, 0, operation⟩).2] at kept

end

/-- **After any calls, a store answers as a catalogue does** on which the same operations were
performed, one after the other and from nothing, wherever it takes its identifiers from. -/
theorem Store.run_refines (supply : IdSupply) (calls : List Call) :
    (Store.run { supply } calls).Refines (Catalog.run [] (calls.map Call.operation)) := by
  have reachable := (Store.Reachable.fresh supply).run calls
  have same : (Store.run { supply } calls).catalog =
      Catalog.run [] (calls.map Call.operation) :=
    (Store.Reachable.fresh supply).catalog_run calls
  rw [← same]
  exact reachable.consistent.refines

namespace Store

/-- Two documents are put into a container. One is identified by a number and forges a system
property, and the other one has an `Id`. -/
def twoEntries : List Call :=
  [⟨{}, 0, .createDatabase "d"⟩, ⟨{}, 0, .createContainer "d" "c"⟩,
    ⟨{}, 0, .createDocument "d" "c" (.object [("id", .int 7), ("_rid", .string "R9")])⟩,
    ⟨{}, 0, .createDocument "d" "c" (.object [("Id", .string "8")])⟩]

/-- What a store reports of the documents in the container after the two are put there and after
another operation. -/
def listedAfter (operation : Operation) : Except StoreError Report :=
  ((run {} (twoEntries ++ [⟨{}, 0, operation⟩])).answer ⟨{}, 0, .listDocuments "d" "c"⟩).map
    Outcome.report

/-- The text 7 is taken by the number, and null identifies nothing. A document that is replaced
stays in front of the other one, and a document that is upserted moves behind it. -/
theorem run_refines_twoEntries :
    ((run {} twoEntries).answer ⟨{}, 0, .createDocument "d" "c"
      (.object [("id", .string "7")])⟩).map Outcome.report = .error (.documentExists "7") ∧
    ((run {} twoEntries).answer ⟨{}, 0, .createDocument "d" "c"
      (.object [("id", .null)])⟩).map Outcome.report = .error (.refused .unidentified) ∧
    listedAfter (.replaceDocument "d" "c" (.string "7") (.object [("a", .int 1)])) =
      .ok (.documents [(some "7", [("a", .int 1), ("id", .string "7")]),
        (some "8", [("Id", .string "8"), ("id", .string "8")])]) ∧
    listedAfter (.upsertDocument "d" "c" (.object [("a", .int 2), ("id", .string "7")])) =
      .ok (.documents [(some "8", [("Id", .string "8"), ("id", .string "8")]),
        (some "7", [("a", .int 2), ("id", .string "7")])]) :=
  ⟨(run_refines .counting twoEntries).reports _ id, (run_refines .counting twoEntries).reports _ id,
    (run_refines .counting (twoEntries ++ [_])).reports _ id,
    (run_refines .counting (twoEntries ++ [_])).reports _ id⟩

end Store

end DocQuery
