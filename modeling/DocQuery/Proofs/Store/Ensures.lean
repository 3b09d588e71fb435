/-
**What an action ensures.**

* `Action.Ensures`: from a store, an action ends with a value and a store of one property, or with a
  failure and a store of another one;
* `ensures_bind` and its like: what an action ensures, step by step.
-/

import DocQuery.Store.Operation

namespace DocQuery

namespace Action

section

variable {α β : Type}

/-- From a store, an action ends with a value and a store of one property, or with a failure and a
store of another one. -/
def Ensures (action : Action α) (after : α → Store → Prop) (failed : StoreError → Store → Prop)
    (store : Store) : Prop :=
  match action.run.run store with
  | (.ok value, result) => after value result
  | (.error cause, result) => failed cause result

variable {after : α → Store → Prop} {failed : StoreError → Store → Prop} {store : Store}

theorem ensures_pure {value : α} :
    Ensures (pure value) after failed store ↔ after value store := Iff.rfl

theorem ensures_throw {cause : StoreError} :
    Ensures (throw cause) after failed store ↔ failed cause store := Iff.rfl

theorem ensures_get {after : Store → Store → Prop} :
    Ensures get after failed store ↔ after store store := Iff.rfl

theorem ensures_modify {change : Store → Store} {after : Unit → Store → Prop} :
    Ensures (modify change) after failed store ↔ after () (change store) := Iff.rfl

/-- What an action of two parts ensures is what the first one ensures of the second one. -/
theorem ensures_bind {action : Action α} {next : α → Action β} {after : β → Store → Prop} :
    Ensures (action >>= next) after failed store ↔
      Ensures action (fun value => Ensures (next value) after failed) failed store := by
  unfold Ensures
  rw [ExceptT.run_bind, StateT.run_bind]
  generalize action.run.run store = outcome
  obtain ⟨verdict, result⟩ := outcome
  cases verdict with
  | error cause => exact Iff.rfl
  | ok value => exact Iff.rfl

theorem ensures_map {action : Action α} {image : α → β} {after : β → Store → Prop} :
    Ensures (image <$> action) after failed store ↔
      Ensures action (fun value => after (image value)) failed store := by
  rw [map_eq_pure_bind, ensures_bind]
  exact Iff.rfl

/-- A value that has to be there is given, or the action fails. -/
theorem ensures_demand {value : Option α} {cause : StoreError} :
    Ensures (demand value cause) after failed store ↔
      (value = none → failed cause store) ∧ ∀ found, value = some found → after found store := by
  cases value with
  | none => exact ⟨fun fails => ⟨fun _ => fails, nofun⟩, fun both => both.1 rfl⟩
  | some found =>
    refine ⟨fun holds => ⟨nofun, ?_⟩, fun both => both.2 found rfl⟩
    rintro _ ⟨⟩
    exact holds

end

end Action

end DocQuery
