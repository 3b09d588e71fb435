/-
**What becomes of a document.**

* `Store.document?`: the document in a place, if there is one, and `Store.container?`;
* `Operation.Ends`: an operation deletes what is in a place, whatever it is;
* `Fate`: what becomes of a document in one step. It is kept, removed, created with a new identifier
  of the store's, or rewritten with the one that it has;
* `Store.Step.fate`: every step gives each place one of these fates, and so does every call
  (`Consistent.fate_next`).
-/

import DocQuery.Proofs.Store.Run

namespace DocQuery

/-- The document with a key in a container, if it is there. -/
def Store.document? (store : Store) (database container key : String) : Option Fields :=
  (store.contents? database container).bind (Table.get? · key)

/-- The container with a name, if it is there. -/
def Store.container? (store : Store) (database container : String) : Option Resource :=
  (store.containers.get? database).bind (Table.get? · container)

/-- An operation deletes a document, its container or its database, or everything. -/
def Operation.Ends (database container key : String) : Operation → Prop
  | .clear => True
  | .deleteDatabase other => other = database
  | .deleteContainer other within => other = database ∧ within = container
  | .deleteDocument other within id => other = database ∧ within = container ∧ id = .string key
  | _ => False

/-- What becomes of the document in a place, in a step from one store to another. -/
inductive Fate (store result : Store) (now : Int) (operation : Operation)
    (database container key : String) : Option Fields → Option Fields → Prop
  | kept {before : Option Fields} :
    Fate store result now operation database container key before before
  | removed {before : Option Fields} (ends : operation.Ends database container key) :
    Fate store result now operation database container key before none
  | created {document : Json} {prepared : Fields} (shelf : Shelf store database container)
    (accepted : prepare document = .ok (key, prepared))
    (given : store.created < result.created) (tagged : store.writes < result.writes) :
    Fate store result now operation database container key none
      (some
        (stamp shelf.owner.selfLink (Action.nextRid store) (Action.nextEtag store) now prepared))
  | rewritten {document : Json} {existing prepared : Fields} {rid : String}
    (shelf : Shelf store database container) (isRid : storedRid? existing = some rid)
    (accepted : prepare document = .ok (key, prepared)) (tagged : store.writes < result.writes) :
    Fate store result now operation database container key (some existing)
      (some (stamp shelf.owner.selfLink rid (Action.nextEtag store) now prepared))

section

variable {store result : Store} {database container key : String}

/-! ### Places -/

theorem Shelf.document?_eq (shelf : Shelf store database container) (key : String) :
    store.document? database container key = shelf.documents.get? key := by
  rw [Store.document?, shelf.contents?_eq]
  rfl

theorem Shelf.container?_eq (shelf : Shelf store database container) :
    store.container? database container = some shelf.owner := by
  rw [Store.container?, shelf.isContainers]
  exact shelf.isOwner

/-- A document stands on a shelf. -/
theorem Consistent.shelf_of_document? (consistent : Consistent store) {document : Fields}
    (found : store.document? database container key = some document) :
    ∃ shelf : Shelf store database container, shelf.documents.get? key = some document := by
  obtain ⟨documents, held, isDocument⟩ := Option.bind_eq_some_iff.mp found
  obtain ⟨shelf, rfl⟩ := consistent.shelf_of_contents? held
  exact ⟨shelf, isDocument⟩

theorem document?_congr (same : result.contents? database container =
      store.contents? database container) :
    result.document? database container key = store.document? database container key := by
  rw [Store.document?, same, Store.document?]

/-- A change of one shelf leaves the places on all others as they are. -/
theorem document?_outside {other within : String} {shelves changed : Table (Table Fields)}
    (isShelves : store.documents.get? other = some shelves)
    (isResult : result.documents = store.documents.set other changed)
    (frame : ∀ name, name ≠ within → changed.get? name = shelves.get? name)
    (outside : ¬ (other = database ∧ within = container)) :
    result.document? database container key = store.document? database container key := by
  refine document?_congr (contents?_of_set isShelves isResult ?_)
  rintro rfl
  refine frame container ?_
  rintro rfl
  exact outside ⟨rfl, rfl⟩

/-- What a database holds is what stands on its shelves. -/
theorem document?_of_set (store : Store) {shelves : Table (Table Fields)}
    (isResult : result.documents = store.documents.set database shelves) :
    result.document? database container key = (shelves.get? container).bind (Table.get? · key) := by
  rw [Store.document?, Store.contents?, isResult, Table.get?_set_self, Option.bind_some]

/-- A database that is not there holds no document. -/
theorem Consistent.document?_of_absent (consistent : Consistent store)
    (absent : store.databases.get? database = none) :
    store.document? database container key = none := by
  rw [Table.get?_eq_none, ← consistent.keys_documents, ← Table.get?_eq_none] at absent
  rw [Store.document?, Store.contents?, absent]
  rfl

/-- A container that is not there holds no document. -/
theorem Consistent.document?_of_absent_container (consistent : Consistent store)
    {containers : Table Resource} {shelves : Table (Table Fields)}
    (isContainers : store.containers.get? database = some containers)
    (isShelves : store.documents.get? database = some shelves)
    (absent : containers.get? container = none) :
    store.document? database container key = none := by
  have shelved := consistent.aligned.related _ _ _ isContainers isShelves
  rw [Table.get?_eq_none, ← shelved.aligned.keys, ← Table.get?_eq_none] at absent
  rw [Store.document?, Store.contents?, isShelves, Option.bind_some, absent]
  rfl

/-! ### Steps -/

variable {now : Int} {operation : Operation}

/-- A store has given what an earlier one had, and possibly more from the same supply. -/
structure Store.Continues (earlier later : Store) : Prop where
  supply : later.supply = earlier.supply
  created : earlier.created ≤ later.created
  writes : earlier.writes ≤ later.writes

/-- Steps only take from the supply of a store. -/
theorem Store.Step.continues {settings : QuerySettings} {outcome : Outcome}
    (step : store.Step settings now operation outcome result) : store.Continues result := by
  cases step with
  | createDatabase _ _ | createContainer _ _ _ _ => exact ⟨rfl, Nat.le_succ _, Nat.le_refl _⟩
  | createDocument _ _ _ _ | upsertNew _ _ _ _ => exact ⟨rfl, Nat.le_succ _, Nat.le_succ _⟩
  | upsertAgain _ _ _ _ _ | replaceDocument _ _ _ _ _ =>
    exact ⟨rfl, Nat.le_refl _, Nat.le_succ _⟩
  | getDatabase _ | listDatabases | deleteDatabase _ | getContainer _ | listContainers _
  | deleteContainer _ | getDocument _ _ | deleteDocument _ _ | listDocuments _ | query _ _ _ _
  | clear => exact ⟨rfl, Nat.le_refl _, Nat.le_refl _⟩

theorem Consistent.continues_next (consistent : Consistent store) (call : Call) :
    store.Continues (store.next call) := by
  obtain ⟨outcome, result, -, isNext, step⟩ | ⟨cause, -, same, -⟩ := consistent.call_cases call
  · rw [isNext]
    exact step.continues
  · rw [same]
    exact ⟨rfl, Nat.le_refl _, Nat.le_refl _⟩

/-- What is the same after a step is kept. -/
theorem fate_of_eq (same : result.document? database container key =
      store.document? database container key) :
    Fate store result now operation database container key (store.document? database container key)
      (result.document? database container key) := by
  rw [same]
  exact .kept

section

variable {other within : String} (shelf : Shelf store other within) {documents : Table Fields}
  (isResult : result.documents = store.documents.set other (shelf.shelves.set within documents))

include isResult

/-- A shelf that is filled holds what it is filled with. -/
theorem Shelf.document?_filled (key : String) :
    result.document? other within key = documents.get? key := by
  rw [document?_of_set store isResult, Table.get?_set_self, Option.bind_some]

/-- A change of one entry of a shelf leaves all other places as they are. -/
theorem Shelf.document?_elsewhere {id : String}
    (frame : ∀ name, name ≠ id → documents.get? name = shelf.documents.get? name)
    (elsewhere : ¬ (other = database ∧ within = container ∧ id = key)) :
    result.document? database container key = store.document? database container key := by
  by_cases inside : other = database ∧ within = container
  · obtain ⟨rfl, rfl⟩ := inside
    rw [shelf.document?_filled isResult, shelf.document?_eq]
    refine frame key ?_
    rintro rfl
    exact elsewhere ⟨rfl, rfl, rfl⟩
  · exact document?_outside shelf.isShelves isResult
      (fun _ different => Table.get?_set_of_ne _ _ different) inside

/-- A step that changes one entry of a shelf decides the fate of this entry only. -/
theorem Shelf.fate {id : String}
    (frame : ∀ name, name ≠ id → documents.get? name = shelf.documents.get? name)
    (fate : other = database → within = container → id = key →
      Fate store result now operation database container key (shelf.documents.get? id)
        (documents.get? id)) :
    Fate store result now operation database container key (store.document? database container key)
      (result.document? database container key) := by
  by_cases here : other = database ∧ within = container ∧ id = key
  · obtain ⟨rfl, rfl, rfl⟩ := here
    rw [shelf.document?_eq, shelf.document?_filled isResult]
    exact fate rfl rfl rfl
  · exact fate_of_eq (shelf.document?_elsewhere isResult frame here)

end

/-- **Every step gives each place one of the fates.** -/
theorem Store.Step.fate {settings : QuerySettings} {outcome : Outcome}
    (step : store.Step settings now operation outcome result) (consistent : Consistent store)
    (database container key : String) :
    Fate store result now operation database container key (store.document? database container key)
      (result.document? database container key) := by
  cases step with
  | @createDatabase id _ absent _ =>
    -- A new database is empty, and the tables of the store held nothing under its name before.
    refine fate_of_eq ?_
    by_cases same : database = id
    · subst same
      rw [consistent.document?_of_absent absent]
      exact (document?_of_set store rfl).trans rfl
    · exact document?_congr (congrArg (Option.bind · _) (Table.get?_set_of_ne _ _ same))
  | @deleteDatabase other _ _ =>
    by_cases same : database = other
    · subst same
      have gone : (store.withoutDatabase database).document? database container key = none :=
        congrArg (fun shelves => (Option.bind shelves _).bind _) (Table.get?_erase_self _ _)
      rw [gone]
      exact .removed rfl
    · exact fate_of_eq
        (document?_congr (congrArg (Option.bind · _) (Table.get?_erase_of_ne _ same)))
  | @createContainer other id _ _ containers shelves isContainers isShelves absent _ =>
    refine fate_of_eq ?_
    by_cases inside : other = database ∧ id = container
    · obtain ⟨rfl, rfl⟩ := inside
      rw [consistent.document?_of_absent_container isContainers isShelves absent]
      refine (document?_of_set store rfl).trans ?_
      rw [Table.get?_set_self]
      rfl
    · exact document?_outside isShelves rfl
        (fun _ different => Table.get?_set_of_ne _ _ different) inside
  | @deleteContainer other within shelf =>
    by_cases inside : other = database ∧ within = container
    · obtain ⟨rfl, rfl⟩ := inside
      have gone : (store.shelve other (shelf.containers.erase within)
          (shelf.shelves.erase within)).document? other within key = none := by
        refine (document?_of_set store rfl).trans ?_
        rw [Table.get?_erase_self]
        rfl
      rw [gone]
      exact .removed ⟨rfl, rfl⟩
    · exact fate_of_eq (document?_outside shelf.isShelves rfl
        (fun _ different => Table.get?_erase_of_ne _ different) inside)
  | createDocument shelf accepted absent isWritten =>
    refine shelf.fate rfl (fun _ different => Table.get?_set_of_ne _ _ different) ?_
    rintro rfl rfl rfl
    rw [absent, Table.get?_set_self, isWritten]
    exact .created shelf accepted (Nat.lt_succ_self _) (Nat.lt_succ_self _)
  | upsertNew shelf accepted absent isWritten =>
    refine shelf.fate rfl (fun _ different => Table.get?_erase_set_of_ne _ _ different) ?_
    rintro rfl rfl rfl
    rw [absent, Table.get?_set_self, isWritten]
    exact .created shelf accepted (Nat.lt_succ_self _) (Nat.lt_succ_self _)
  | upsertAgain shelf accepted found isRid isWritten =>
    refine shelf.fate rfl (fun _ different => Table.get?_erase_set_of_ne _ _ different) ?_
    rintro rfl rfl rfl
    rw [found, Table.get?_set_self, isWritten]
    exact .rewritten shelf isRid accepted (Nat.lt_succ_self _)
  | replaceDocument shelf found isRid accepted isWritten =>
    refine shelf.fate rfl (fun _ different => Table.get?_set_of_ne _ _ different) ?_
    rintro rfl rfl rfl
    rw [found, Table.get?_set_self, isWritten]
    exact .rewritten shelf isRid accepted (Nat.lt_succ_self _)
  | deleteDocument shelf _ =>
    refine shelf.fate rfl (fun _ different => Table.get?_erase_of_ne _ different) ?_
    rintro rfl rfl rfl
    rw [Table.get?_erase_self]
    exact .removed ⟨rfl, rfl, rfl⟩
  | clear => exact .removed trivial
  | getDatabase _ | listDatabases | getContainer _ | listContainers _ | getDocument _ _
  | listDocuments _ | query _ _ _ _ => exact .kept

/-- **Every call gives each place one of the fates**, whether it fails or not. -/
theorem Consistent.fate_next (consistent : Consistent store) (call : Call)
    (database container key : String) :
    Fate store (store.next call) call.now call.operation database container key
      (store.document? database container key)
      ((store.next call).document? database container key) := by
  obtain ⟨outcome, result, -, isNext, step⟩ | ⟨cause, -, same, -⟩ := consistent.call_cases call
  · rw [isNext]
    exact step.fate consistent database container key
  · rw [same]
    exact .kept

end

end DocQuery
