/-
**Runs of a store.**

* `Call`: an operation at a time, and `Store.run`: the store after several calls;
* `Consistent.call_cases`: a call makes a step, or fails and changes nothing;
* `Store.contents?`: the documents of a container, if it is there;
* `Operation.Disturbs`: an operation may change what a container holds;
* `Consistent.contents?_perform`, `Consistent.contents?_run`: calls that do not disturb a container
  leave it as it is.
-/

import DocQuery.Proofs.Store.Operations

namespace DocQuery

/-! ### Calls -/

/-- An operation at a time, and the settings under which queries are answered. -/
structure Call where
  settings : QuerySettings
  now : Int
  operation : Operation

namespace Store

variable {store : Store}

/-- The answer to a call. -/
def answer (store : Store) (call : Call) : Except StoreError Outcome :=
  (store.perform call.settings call.now call.operation).1

/-- The store after a call, whether it failed or not. -/
def next (store : Store) (call : Call) : Store :=
  (store.perform call.settings call.now call.operation).2

/-- The store after several calls. -/
def run (store : Store) (calls : List Call) : Store := calls.foldl next store

theorem run_append (store : Store) (earlier later : List Call) :
    store.run (earlier ++ later) = (store.run earlier).run later :=
  List.foldl_append

theorem Reachable.next (reachable : store.Reachable) (call : Call) : (store.next call).Reachable :=
  .perform reachable call.settings call.now call.operation

theorem Reachable.run (reachable : store.Reachable) (calls : List Call) :
    (store.run calls).Reachable := by
  induction calls generalizing store with
  | nil => exact reachable
  | cons call more ih => exact ih (reachable.next call)

/-- What arises from an empty store arises by a run. -/
theorem Reachable.exists_run (reachable : store.Reachable) :
    ∃ supply calls, store = Store.run { supply } calls := by
  induction reachable with
  | fresh supply => exact ⟨supply, [], rfl⟩
  | perform _ settings now operation ih =>
    obtain ⟨supply, calls, rfl⟩ := ih
    refine ⟨supply, calls ++ [⟨settings, now, operation⟩], ?_⟩
    rw [run_append]
    rfl

end Store

/-- A call makes a step, or fails for one of its causes and changes nothing. -/
theorem Consistent.call_cases {store : Store} (consistent : Consistent store) (call : Call) :
    (∃ outcome result, store.answer call = .ok outcome ∧ store.next call = result ∧
      store.Step call.settings call.now call.operation outcome result) ∨
    ∃ cause, store.answer call = .error cause ∧ store.next call = store ∧
      call.operation.Fails call.settings store cause := by
  unfold Store.answer Store.next
  obtain ⟨outcome, result, performed, step⟩ | ⟨cause, performed, fails⟩ :=
    consistent.perform_cases call.settings call.now call.operation
  · exact .inl ⟨outcome, result, performed ▸ rfl, performed ▸ rfl, step⟩
  · exact .inr ⟨cause, performed ▸ rfl, performed ▸ rfl, fails⟩

/-- A call with an answer makes a step. -/
theorem Consistent.step_of_answer {store : Store} (consistent : Consistent store) {call : Call}
    {outcome : Outcome} (answered : store.answer call = .ok outcome) :
    ∃ result, store.Step call.settings call.now call.operation outcome result := by
  obtain ⟨given, result, isGiven, -, step⟩ | ⟨cause, failed, -⟩ := consistent.call_cases call
  · cases answered.symm.trans isGiven
    exact ⟨result, step⟩
  · cases answered.symm.trans failed

/-! ### Containers that are left alone -/

/-- The documents of a container, if it is there. -/
def Store.contents? (store : Store) (database container : String) : Option (Table Fields) :=
  (store.documents.get? database).bind (Table.get? · container)

/-- An operation may change what a container holds: it writes or deletes one of its documents, or
deletes the container, its database or everything. -/
def Operation.Disturbs (database container : String) : Operation → Prop
  | .clear => True
  | .deleteDatabase other => other = database
  | .deleteContainer other within => other = database ∧ within = container
  | .createDocument other within _ => other = database ∧ within = container
  | .upsertDocument other within _ => other = database ∧ within = container
  | .replaceDocument other within _ _ => other = database ∧ within = container
  | .deleteDocument other within _ => other = database ∧ within = container
  | _ => False

section

variable {store result : Store} {database container : String} {documents : Table Fields}

theorem Shelf.contents?_eq (shelf : Shelf store database container) :
    store.contents? database container = some shelf.documents := by
  rw [Store.contents?, shelf.isShelves]
  exact shelf.isDocuments

theorem Consistent.keys_documents (consistent : Consistent store) :
    store.documents.keys = store.databases.keys :=
  consistent.aligned.keys.trans consistent.keys

/-- The database of a container is there. -/
theorem Shelf.databases_ne_none (shelf : Shelf store database container)
    (consistent : Consistent store) : store.databases.get? database ≠ none := by
  rw [ne_eq, Table.get?_eq_none, ← consistent.keys_documents]
  exact fun absent => absent (Table.mem_keys.mpr ⟨_, shelf.isShelves⟩)

/-- A container that holds documents has a shelf. -/
theorem Consistent.shelf_of_contents? (consistent : Consistent store)
    (held : store.contents? database container = some documents) :
    ∃ shelf : Shelf store database container, shelf.documents = documents := by
  obtain ⟨shelves, isShelves, isDocuments⟩ := Option.bind_eq_some_iff.mp held
  have present : database ∈ store.containers.keys :=
    consistent.aligned.keys ▸ Table.mem_keys.mpr ⟨shelves, isShelves⟩
  obtain ⟨containers, isContainers⟩ := Table.mem_keys.mp present
  have shelved := consistent.aligned.related _ _ _ isContainers isShelves
  have listed : container ∈ containers.keys :=
    shelved.aligned.keys ▸ Table.mem_keys.mpr ⟨documents, isDocuments⟩
  obtain ⟨owner, isOwner⟩ := Table.mem_keys.mp listed
  exact ⟨⟨containers, shelves, owner, documents, isContainers, isShelves, isOwner, isDocuments⟩,
    rfl⟩

/-- What a container holds depends on nothing but its own documents. -/
theorem contents?_of_set {other : String} {shelves changed : Table (Table Fields)}
    (isShelves : store.documents.get? other = some shelves)
    (isChanged : result.documents = store.documents.set other changed)
    (same : other = database → changed.get? container = shelves.get? container) :
    result.contents? database container = store.contents? database container := by
  unfold Store.contents?
  rw [isChanged]
  by_cases inside : database = other
  · subst inside
    rw [Table.get?_set_self, isShelves]
    exact same rfl
  · rw [Table.get?_set_of_ne _ _ inside]

/-- A step that does not disturb a container leaves it as it is. -/
theorem Store.Step.contents?_eq {settings : QuerySettings} {now : Int} {operation : Operation}
    {outcome : Outcome} (step : store.Step settings now operation outcome result)
    (consistent : Consistent store) (held : store.contents? database container = some documents)
    (spared : ¬ operation.Disturbs database container) :
    result.contents? database container = some documents := by
  obtain ⟨own, rfl⟩ := consistent.shelf_of_contents? held
  rw [← held]
  cases step with
  | @createDatabase id _ absent _ =>
    have other : database ≠ id := by
      rintro rfl
      exact own.databases_ne_none consistent absent
    exact congrArg (Option.bind · _) (Table.get?_set_of_ne _ _ other)
  | @deleteDatabase other _ _ =>
    exact congrArg (Option.bind · _) (Table.get?_erase_of_ne _ (Ne.symm spared))
  | @createContainer other id _ _ containers shelves isContainers isShelves absent _ =>
    refine contents?_of_set isShelves rfl ?_
    rintro rfl
    refine Table.get?_set_of_ne _ _ ?_
    rintro rfl
    rw [own.isContainers] at isContainers
    cases isContainers
    rw [own.isOwner] at absent
    cases absent
  | @deleteContainer other within shelf =>
    refine contents?_of_set shelf.isShelves rfl ?_
    rintro rfl
    refine Table.get?_erase_of_ne _ ?_
    rintro rfl
    exact spared ⟨rfl, rfl⟩
  | @createDocument other within _ _ _ _ shelf _ _ _ | @upsertNew other within _ _ _ _ shelf _ _ _
  | @upsertAgain other within _ _ _ _ _ _ shelf _ _ _ _
  | @replaceDocument other within _ _ _ _ _ _ shelf _ _ _ _
  | @deleteDocument other within _ _ shelf _ =>
    refine contents?_of_set shelf.isShelves rfl ?_
    rintro rfl
    refine Table.get?_set_of_ne _ _ ?_
    rintro rfl
    exact spared ⟨rfl, rfl⟩
  | clear => exact absurd trivial spared
  | getDatabase _ | listDatabases | getContainer _ | listContainers _ | getDocument _ _
  | listDocuments _ | query _ _ _ _ => rfl

theorem Consistent.contents?_perform (consistent : Consistent store)
    (held : store.contents? database container = some documents) (call : Call)
    (spared : ¬ call.operation.Disturbs database container) :
    (store.next call).contents? database container = some documents := by
  obtain ⟨outcome, result, -, isNext, step⟩ | ⟨cause, -, same, -⟩ := consistent.call_cases call
  · rw [isNext]
    exact step.contents?_eq consistent held spared
  · rw [same]
    exact held

/-- **Calls that do not disturb a container leave it as it is.** -/
theorem Store.Reachable.contents?_run (reachable : store.Reachable)
    (held : store.contents? database container = some documents) {calls : List Call}
    (spared : ∀ call ∈ calls, ¬ call.operation.Disturbs database container) :
    (store.run calls).contents? database container = some documents := by
  induction calls generalizing store with
  | nil => exact held
  | cons call more ih =>
    obtain ⟨first, others⟩ := List.forall_mem_cons.mp spared
    exact ih (reachable.next call) (reachable.consistent.contents?_perform held call first) others

end

end DocQuery
