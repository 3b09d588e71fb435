/-
**Documents keep their identity.**

* `identity`: the two system properties that tell which resource a document is;
* `Consistent.identity_next`, `Store.Reachable.identity_run`: a document keeps its identity as long
  as it is not deleted, however often it is written;
* `Consistent.identity_created`: it gets the identity that comes next in the supply;
* `Store.KeepsIdentity`: from its creation on a document has the identity that it was given then,
  and nothing that was submitted for a system property is stored. `Store.run_keepsIdentity` says so
  of every run.
-/

import DocQuery.Proofs.Store.Provenance
import DocQuery.Proofs.Store.Submission

namespace DocQuery

/-! ### Identity -/

/-- What tells which resource a document is: the identifier that the store gave it, and its link to
itself. -/
def identity (document : Fields) : Option Json × Option Json :=
  (document.get? "_rid", document.get? "_self")

/-- The identity of a document with an identifier in a container. -/
def identityIn (container : Resource) (rid : String) : Option Json × Option Json :=
  (some (.string rid), some (.string (container.selfLink ++ "/docs/" ++ rid)))

theorem identity_stamp (container : Resource) (rid etag : String) (now : Int)
    (document : Fields) :
    identity (stamp container.selfLink rid etag now document) = identityIn container rid :=
  Prod.ext (get?_stamp rfl) (get?_stamp rfl)

/-- What is filed has the identity that its identifier gives it. -/
theorem Filed.identity_eq {container : Resource} {key rid : String} {document : Fields}
    (filed : Filed container key document) (isRid : storedRid? document = some rid) :
    identity document = identityIn container rid := by
  obtain ⟨own, isOwn, isSelf⟩ := filed.linked
  rw [storedRid?, isOwn] at isRid
  cases isRid
  exact Prod.ext isOwn isSelf

section

variable {store : Store} {database container key : String} {document : Fields}

/-- A call that does not delete a document leaves it with the identity that it has. -/
theorem Consistent.identity_next (consistent : Consistent store)
    (found : store.document? database container key = some document) (call : Call)
    (spared : ¬ call.operation.Ends database container key) :
    ∃ later, (store.next call).document? database container key = some later ∧
      identity later = identity document := by
  have fate := consistent.fate_next call database container key
  rw [found] at fate
  generalize (store.next call).document? database container key = after at fate ⊢
  cases fate with
  | kept => exact ⟨document, rfl, rfl⟩
  | removed ends => exact absurd ends spared
  | rewritten shelf isRid _ _ =>
    rw [shelf.document?_eq] at found
    have filed := (shelf.filedIn consistent).filed _ _ found
    exact ⟨_, rfl, (identity_stamp _ _ _ _ _).trans (filed.identity_eq isRid).symm⟩

/-- **A document keeps its identity** as long as nothing deletes it. -/
theorem Store.Reachable.identity_run (reachable : store.Reachable)
    (found : store.document? database container key = some document) {calls : List Call}
    (spared : ∀ call ∈ calls, ¬ call.operation.Ends database container key) :
    ∃ later, (store.run calls).document? database container key = some later ∧
      identity later = identity document := by
  induction calls generalizing store document with
  | nil => exact ⟨document, found, rfl⟩
  | cons call more ih =>
    obtain ⟨first, others⟩ := List.forall_mem_cons.mp spared
    obtain ⟨next, isNext, same⟩ := reachable.consistent.identity_next found call first
    obtain ⟨later, isLater, same'⟩ := ih (reachable.next call) isNext others
    exact ⟨later, isLater, same'.trans same⟩

/-- A document that is created has the next identifier of the store. -/
theorem Consistent.identity_created (consistent : Consistent store)
    (absent : store.document? database container key = none) {call : Call}
    (created : (store.next call).document? database container key = some document) :
    ∃ shelf : Shelf store database container,
      identity document = identityIn shelf.owner (Action.nextRid store) := by
  have fate := consistent.fate_next call database container key
  rw [absent, created] at fate
  cases fate with
  | created shelf _ _ _ => exact ⟨shelf, identity_stamp _ _ _ _ _⟩

end

/-! ### Runs -/

namespace Store

section

variable {supply : IdSupply}

/-- From its creation on a document has the identity that it was given then, as long as nothing
deletes it. -/
theorem identity_since {earlier later : List Call} {call : Call} {database container key : String}
    (absent : (run { supply } earlier).document? database container key = none)
    (created : (run { supply } (earlier ++ [call])).document? database container key ≠ none)
    (spared : ∀ other ∈ later, ¬ other.operation.Ends database container key) :
    ∃ owner document, (run { supply } earlier).container? database container = some owner ∧
      (run { supply } (earlier ++ call :: later)).document? database container key =
        some document ∧
      identity document = identityIn owner (Action.nextRid (run { supply } earlier)) := by
  have reachable := (Reachable.fresh supply).run earlier
  rw [run_append] at created
  obtain ⟨first, isFirst⟩ := Option.ne_none_iff_exists'.mp created
  obtain ⟨shelf, given⟩ := reachable.consistent.identity_created absent isFirst
  obtain ⟨document, found, same⟩ := (reachable.next call).identity_run isFirst spared
  rw [run_append]
  exact ⟨shelf.owner, document, shelf.container?_eq, found, same.trans given⟩

end

/-- In a run from nothing, documents have an identity for life, and nobody but the store says which.

* A document that is created has the next identifier of the supply and a link below its container's.
  It has them still after any other calls, unless one of them deletes it, its container or its
  database, or everything.
* The system properties of every stored document were made by the store.
* Neither the store nor its answers depend on what is submitted for system properties. -/
structure KeepsIdentity (supply : IdSupply) (calls : List Call) : Prop where
  lasting : ∀ earlier call later database container key, calls = earlier ++ call :: later →
    (run { supply } earlier).document? database container key = none →
    (run { supply } (earlier ++ [call])).document? database container key ≠ none →
    (∀ other ∈ later, ¬ other.operation.Ends database container key) →
    ∃ owner document, (run { supply } earlier).container? database container = some owner ∧
      (run { supply } calls).document? database container key = some document ∧
      identity document = identityIn owner (Action.nextRid (run { supply } earlier))
  made : ∀ database container key document,
    (run { supply } calls).document? database container key = some document →
    ∃ owner, (run { supply } calls).container? database container = some owner ∧
      Stamped (run { supply } calls) (calls.map Call.now) owner.selfLink key document
  unforged : ∀ others : List Call, others.map Call.unstamped = calls.map Call.unstamped →
    run { supply } others = run { supply } calls ∧
    ∀ call other : Call, other.unstamped = call.unstamped →
      (run { supply } others).answer other = (run { supply } calls).answer call

/-- **A document keeps its identity for life, and nobody can forge it**, whatever is asked of a
store and wherever it takes its identifiers from. -/
theorem run_keepsIdentity (supply : IdSupply) (calls : List Call) : KeepsIdentity supply calls where
  lasting earlier call later database container key isRun absent created spared := by
    subst isRun
    exact identity_since absent created spared
  made _ _ _ _ found := run_stamped supply calls found
  unforged others same := by
    have sameStore : run { supply } others = run { supply } calls := by
      rw [← run_unstamped, same, run_unstamped]
    refine ⟨sameStore, fun call other sameCall => ?_⟩
    rw [sameStore, ← answer_unstamped, sameCall, answer_unstamped]

/-- A document that is written three times, each time with system properties that are not its
own. -/
theorem run_keepsIdentity_forged :
    ∃ owner document,
      (run {} [⟨{}, 1, .createDatabase "d"⟩, ⟨{}, 2, .createContainer "d" "c"⟩]).container?
        "d" "c" = some owner ∧
      (run {} [⟨{}, 1, .createDatabase "d"⟩, ⟨{}, 2, .createContainer "d" "c"⟩,
        ⟨{}, 3, .createDocument "d" "c" (.object [("id", .string "1"), ("_rid", .string "R9")])⟩,
        ⟨{}, 4, .upsertDocument "d" "c" (.object [("_self", .string "dbs"), ("id", .int 1)])⟩,
        ⟨{}, 5, .replaceDocument "d" "c" (.string "1") (.object [("_rid", .null)])⟩]).document?
        "d" "c" "1" = some document ∧
      identity document = identityIn owner "R3" :=
  (run_keepsIdentity .counting _).lasting
    [⟨{}, 1, .createDatabase "d"⟩, ⟨{}, 2, .createContainer "d" "c"⟩] _ _ "d" "c" "1" rfl rfl
    (by decide +kernel) (by simp [Operation.Ends])

end Store

end DocQuery
