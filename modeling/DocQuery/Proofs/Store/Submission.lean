/-
**Submitted system properties count for nothing.**

* `Json.unstamped`: a document without system properties;
* `Operation.unstamped`, `Call.unstamped`: an operation or a call that submits such a document;
* `Operation.action_unstamped`: both operations work in the same way, so both calls have the same
  answer and leave the same store behind (`Store.answer_unstamped`, `Store.run_unstamped`).
-/

import DocQuery.Proofs.Store.Run

namespace DocQuery

/-- A submitted document without system properties. -/
def Json.unstamped : Json → Json
  | .object fields => .object (userFields fields)
  | other => other

/-- An operation that submits no system properties. -/
def Operation.unstamped : Operation → Operation
  | .createDocument database container document =>
    .createDocument database container document.unstamped
  | .upsertDocument database container document =>
    .upsertDocument database container document.unstamped
  | .replaceDocument database container id document =>
    .replaceDocument database container id document.unstamped
  | other => other

/-- A call that submits no system properties. -/
def Call.unstamped (call : Call) : Call := { call with operation := call.operation.unstamped }

/-! ### Documents -/

theorem prepare_unstamped (document : Json) : prepare document.unstamped = prepare document := by
  cases document with
  | object fields => exact prepare_congr (userFields_userFields fields)
  | null | bool _ | int _ | float _ | string _ | array _ => rfl

/-- So does what becomes of it under another identifier. -/
theorem prepare_set_unstamped (fields : Fields) (id : Json) :
    prepare (.object (Table.set (userFields fields) "id" id)) =
      prepare (.object (fields.set "id" id)) := by
  refine prepare_congr ?_
  rw [userFields_set (by decide), userFields_set (by decide), userFields_userFields]

/-! ### Operations -/

namespace Action

theorem submitted_congr {document other : Json} (same : prepare document = prepare other) :
    submitted document = submitted other := by
  unfold submitted
  rw [same]

/-- Under an identifier of its own a document is submitted with or without system properties. -/
theorem withId_bind_unstamped {α : Type} (id : String) (document : Json)
    (rest : String × Fields → Action α) :
    (withId id document.unstamped >>= fun document => submitted document >>= rest) =
      withId id document >>= fun document => submitted document >>= rest := by
  cases document with
  | object fields =>
    have same := submitted_congr (prepare_set_unstamped fields (.string id))
    simp only [Json.unstamped, withId, pure_bind, same]
  | null | bool _ | int _ | float _ | string _ | array _ => rfl

end Action

/-- **An operation works in the same way whatever is submitted for the system properties.** -/
theorem Operation.action_unstamped (operation : Operation) (settings : QuerySettings) (now : Int) :
    operation.unstamped.action settings now = operation.action settings now := by
  cases operation with
  | createDocument database container document
  | upsertDocument database container document =>
    have same := Action.submitted_congr (prepare_unstamped document)
    simp only [unstamped, action, Action.createDocument, Action.upsertDocument, same]
  | replaceDocument database container id document =>
    simp only [unstamped, action, Action.replaceDocument, Action.withId_bind_unstamped]
  | createDatabase _ | getDatabase _ | listDatabases | deleteDatabase _ | createContainer _ _
  | getContainer _ _ | listContainers _ | deleteContainer _ _ | getDocument _ _ _
  | deleteDocument _ _ _ | listDocuments _ _ | query _ _ _ | clear => rfl

namespace Store

variable (store : Store)

theorem perform_unstamped (call : Call) :
    store.perform call.settings call.now call.operation.unstamped =
      store.perform call.settings call.now call.operation := by
  unfold perform
  rw [call.operation.action_unstamped]

theorem answer_unstamped (call : Call) : store.answer call.unstamped = store.answer call :=
  congrArg Prod.fst (store.perform_unstamped call)

theorem next_unstamped (call : Call) : store.next call.unstamped = store.next call :=
  congrArg Prod.snd (store.perform_unstamped call)

/-- **After several calls a store is the same whatever was submitted for the system properties.** -/
theorem run_unstamped (calls : List Call) :
    store.run (calls.map Call.unstamped) = store.run calls := by
  unfold run
  rw [List.foldl_map]
  simp only [next_unstamped]

end Store

end DocQuery
