/-
**A document can be read and written back.**

* `Store.Writes`: a call stores a document in a place, answers with it, and changes nothing else;
* `Consistent.writes_upsert`, `Consistent.writes_replace`: an upsert of a document that is accepted,
  or a replacement by one, does so;
* `Consistent.answer_getDocument`: what is read is the document that is there;
* `Agrees`: a document is another one except for the time and the tag of its last write;
* `Store.Reachable.writeBack`: what is read can be written back in both ways. A replacement makes
  the `id` a text, and nothing else changes.
-/

import DocQuery.Proofs.Store.Provenance

namespace DocQuery

/-! ### Writes that succeed -/

/-- A call stores a document in a place, answers with it, and changes nothing else. -/
structure Store.Writes (store : Store) (call : Call) (database container key : String)
    (document : Fields) : Prop where
  answered : store.answer call = .ok (.document document)
  stored : (store.next call).document? database container key = some document
  elsewhere : ∀ other within id, ¬ (database = other ∧ container = within ∧ key = id) →
    (store.next call).document? other within id = store.document? other within id
  databases : (store.next call).databases = store.databases
  containers : (store.next call).containers = store.containers

section

variable {store : Store} {database container key : String} {settings : QuerySettings} {now : Int}

/-- The container of a shelf is there. -/
theorem Shelf.get?_ne_none (shelf : Shelf store database container) {containers : Table Resource}
    (isContainers : store.containers.get? database = some containers) :
    containers.get? container ≠ none := by
  rw [shelf.isContainers] at isContainers
  cases isContainers
  rw [shelf.isOwner]
  nofun

/-- A document that is found is not missing. -/
theorem Shelf.not_absent (shelf : Shelf store database container) {document : Fields}
    (found : shelf.documents.get? key = some document) (other : Shelf store database container) :
    ¬ ∀ name, Json.string key = .string name → other.documents.get? name = none := by
  intro absent
  obtain rfl := shelf.eq other
  rw [absent key rfl] at found
  cases found

/-- A document that is there can be read. -/
theorem Shelf.not_fails_get (shelf : Shelf store database container)
    (consistent : Consistent store) {document : Fields}
    (found : shelf.documents.get? key = some document) (cause : StoreError) :
    ¬ (Operation.getDocument database container (.string key)).Fails settings store cause := by
  intro fails
  cases fails with
  | databaseMissing opens absent =>
    cases opens
    exact shelf.databases_ne_none consistent absent
  | containerMissing opens isContainers absent =>
    cases opens
    exact shelf.get?_ne_none isContainers absent
  | collection _ _ wants collects =>
    cases wants
    exact collects
  | documentMissing other opens wants _ absent =>
    cases opens
    cases wants
    exact shelf.not_absent found other absent
  | refused _ _ submits _ => cases submits

/-- A document that is accepted is not refused where its container is there. -/
theorem Shelf.not_fails_upsert (shelf : Shelf store database container)
    (consistent : Consistent store) {document : Json} {accepted : String × Fields}
    (isAccepted : prepare document = .ok accepted) (cause : StoreError) :
    ¬ (Operation.upsertDocument database container document).Fails settings store cause := by
  intro fails
  cases fails with
  | databaseMissing opens absent =>
    cases opens
    exact shelf.databases_ne_none consistent absent
  | containerMissing opens isContainers absent =>
    cases opens
    exact shelf.get?_ne_none isContainers absent
  | collection _ _ wants _ | documentMissing _ _ wants _ _ => cases wants
  | refused _ _ submits refused =>
    cases submits
    rw [isAccepted] at refused
    cases refused

/-- A document that is accepted can replace one that is there. -/
theorem Shelf.not_fails_replace (shelf : Shelf store database container)
    (consistent : Consistent store) {existing fields : Fields}
    (found : shelf.documents.get? key = some existing) {accepted : String × Fields}
    (isAccepted : prepare (.object (fields.set "id" (.string key))) = .ok accepted)
    (cause : StoreError) :
    ¬ (Operation.replaceDocument database container (.string key) (.object fields)).Fails settings
      store cause := by
  intro fails
  cases fails with
  | databaseMissing opens absent =>
    cases opens
    exact shelf.databases_ne_none consistent absent
  | containerMissing opens isContainers absent =>
    cases opens
    exact shelf.get?_ne_none isContainers absent
  | collection _ _ wants collects =>
    cases wants
    exact collects
  | documentMissing other opens wants _ absent =>
    cases opens
    cases wants
    exact shelf.not_absent found other absent
  | refused _ _ submits _ => cases submits
  | unusable _ _ other => exact other fields rfl
  | unidentified _ _ refused =>
    rw [isAccepted] at refused
    cases refused

/-- A call that fills a shelf and changes one entry of it only writes into one place. -/
theorem Shelf.writes (shelf : Shelf store database container) {call : Call} {document : Fields}
    {documents : Table Fields} {created writes : Nat}
    (answered : store.answer call = .ok (.document document))
    (isNext : store.next call = (shelf.counted created writes).fill documents)
    (stored : documents.get? key = some document)
    (frame : ∀ name, name ≠ key → documents.get? name = shelf.documents.get? name) :
    store.Writes call database container key document := by
  refine ⟨answered, ?_, fun other within id different => ?_, ?_, ?_⟩
  · rw [isNext, shelf.document?_filled rfl]
    exact stored
  · rw [isNext]
    exact shelf.document?_elsewhere rfl frame different
  · rw [isNext]
    rfl
  · rw [isNext]
    rfl

/-- An upsert of a document that is accepted writes it in the place of the one with its
identifier. -/
theorem Consistent.writes_upsert (consistent : Consistent store)
    (shelf : Shelf store database container) {document : Json} {prepared existing : Fields}
    {rid : String} (found : shelf.documents.get? key = some existing)
    (isRid : storedRid? existing = some rid) (accepted : prepare document = .ok (key, prepared)) :
    store.Writes ⟨settings, now, .upsertDocument database container document⟩ database container key
      (stamp shelf.owner.selfLink rid (Action.nextEtag store) now prepared) := by
  obtain ⟨outcome, result, answered, isNext, step⟩ | ⟨cause, -, -, fails⟩ :=
    consistent.call_cases ⟨settings, now, .upsertDocument database container document⟩
  · cases step with
    | upsertNew other accepted' absent _ =>
      obtain rfl := shelf.eq other
      cases accepted.symm.trans accepted'
      rw [absent] at found
      cases found
    | upsertAgain other accepted' found' isRid' isWritten =>
      obtain rfl := shelf.eq other
      cases accepted.symm.trans accepted'
      cases found.symm.trans found'
      cases isRid.symm.trans isRid'
      subst isWritten
      exact shelf.writes answered isNext (Table.get?_set_self _ _ _)
        fun _ => Table.get?_erase_set_of_ne _ _
  · exact absurd fails (shelf.not_fails_upsert consistent accepted cause)

/-- A replacement by a document that is accepted writes it in the place of the other one. -/
theorem Consistent.writes_replace (consistent : Consistent store)
    (shelf : Shelf store database container) {fields prepared existing : Fields} {rid : String}
    (found : shelf.documents.get? key = some existing) (isRid : storedRid? existing = some rid)
    (accepted : prepare (.object (fields.set "id" (.string key))) = .ok (key, prepared)) :
    store.Writes ⟨settings, now, .replaceDocument database container (.string key) (.object fields)⟩
      database container key
      (stamp shelf.owner.selfLink rid (Action.nextEtag store) now prepared) := by
  obtain ⟨outcome, result, answered, isNext, step⟩ | ⟨cause, -, -, fails⟩ := consistent.call_cases
    ⟨settings, now, .replaceDocument database container (.string key) (.object fields)⟩
  · cases step with
    | replaceDocument other found' isRid' accepted' isWritten =>
      obtain rfl := shelf.eq other
      cases accepted.symm.trans accepted'
      cases found.symm.trans found'
      cases isRid.symm.trans isRid'
      subst isWritten
      exact shelf.writes answered isNext (Table.get?_set_self _ _ _)
        fun _ => Table.get?_set_of_ne _ _
  · exact absurd fails (shelf.not_fails_replace consistent found accepted cause)

/-- What is read is the document that is there. -/
theorem Consistent.answer_getDocument (consistent : Consistent store)
    (shelf : Shelf store database container) {document : Fields}
    (found : shelf.documents.get? key = some document) :
    store.answer ⟨settings, now, .getDocument database container (.string key)⟩ =
      .ok (.document document) := by
  obtain ⟨outcome, result, answered, -, step⟩ | ⟨cause, -, -, fails⟩ :=
    consistent.call_cases ⟨settings, now, .getDocument database container (.string key)⟩
  · cases step with
    | getDocument other found' =>
      obtain rfl := shelf.eq other
      cases found.symm.trans found'
      exact answered
  · exact absurd fails (shelf.not_fails_get consistent found cause)

end

/-! ### Documents that are written back -/

/-- A document is another one except for the time and the tag of its last write. -/
structure Agrees (document other : Fields) : Prop where
  keys : document.keys = other.keys
  same : ∀ name, name ≠ "_ts" → name ≠ "_etag" → document.get? name = other.get? name

section

variable {link rid etag etag' : String} {now now' : Int} {own : Fields}

theorem keys_stamp (isOwn : Own own) :
    (stamp link rid etag now own).keys = own.keys ++ systemProperties := by
  rw [stamp_eq_append isOwn, Table.keys, List.map_append]
  rfl

/-- A document that is stamped again agrees with itself. -/
theorem agrees_stamp (isOwn : Own own) :
    Agrees (stamp link rid etag' now' own) (stamp link rid etag now own) := by
  refine ⟨(keys_stamp isOwn).trans (keys_stamp isOwn).symm, fun name notTime notTag => ?_⟩
  by_cases isSystem : name ∈ systemProperties
  · rw [systemProperties] at isSystem
    simp only [List.mem_cons, List.not_mem_nil, or_false] at isSystem
    obtain rfl | rfl | rfl | rfl | rfl := isSystem
    · rw [get?_stamp rfl, get?_stamp rfl]
    · exact absurd rfl notTime
    · rw [get?_stamp rfl, get?_stamp rfl]
    · exact absurd rfl notTag
    · rw [get?_stamp rfl, get?_stamp rfl]
  · rw [get?_stamp_of_notMem isSystem, get?_stamp_of_notMem isSystem]

/-- An `id` that is there can be set before or after a stamp. -/
theorem set_stamp (isOwn : Own own) (hasId : HasValue own "id") (id : Json) :
    (stamp link rid etag now own).set "id" id = stamp link rid etag now (own.set "id" id) := by
  obtain ⟨value, found, -⟩ := hasId
  rw [stamp_eq_append isOwn, stamp_eq_append (isOwn.set_id id), Table.set_append_of_get? found]

end

section

variable {store : Store} {database container key : String} {settings reading : QuerySettings}
  {now time : Int} {document : Fields}

/-- **A document can be read and written back.** It is read as it is stored. Both an upsert and a
replacement by what was read succeed, keep all fields except for the time and the tag of the last
write, and leave every other document as it is. A replacement makes the `id` the text that
identifies the document, which it is already if it is a text. -/
theorem Store.Reachable.writeBack (reachable : store.Reachable)
    (held : store.document? database container key = some document) :
    store.answer ⟨reading, time, .getDocument database container (.string key)⟩ =
      .ok (.document document) ∧
    (∃ written, store.Writes ⟨settings, now, .upsertDocument database container (.object document)⟩
        database container key written ∧ Agrees written document) ∧
    (∃ written, store.Writes
        ⟨settings, now, .replaceDocument database container (.string key) (.object document)⟩
        database container key written ∧ Agrees written (document.set "id" (.string key))) ∧
    ∀ text, document.get? "id" = some (.string text) → text = key := by
  have consistent := reachable.consistent
  obtain ⟨shelf, found⟩ := consistent.shelf_of_document? held
  obtain ⟨supply, calls, rfl⟩ := reachable.exists_run
  obtain ⟨owner, isOwner, stamped⟩ := Store.run_stamped supply calls held
  cases shelf.container?_eq.symm.trans isOwner
  obtain @⟨rid, etag, before, own, -, -, -, prepared, isOwn, filled⟩ := stamped
  -- Both writes strip the stamp and put another one in its place, with the same identifier.
  have isRid : storedRid? (stamp shelf.owner.selfLink rid etag before own) = some rid :=
    storedRid?_stamp
  have shown := @userFields_stamp shelf.owner.selfLink rid etag before own isOwn
  refine ⟨consistent.answer_getDocument shelf found, ?_, ?_, ?_⟩
  · have accepted := prepare_of_prepared prepared filled shown
    exact ⟨_, consistent.writes_upsert shelf found isRid accepted, agrees_stamp isOwn⟩
  · have isId := Table.get?_set_self own "id" (.string key)
    have accepted := prepare_of_prepared (.of_identifier isId nofun rfl) filled
      ((userFields_set (by decide) _ (.string key)).trans (congrArg (Table.set · _ _) shown))
    refine ⟨_, consistent.writes_replace shelf found isRid accepted, ?_⟩
    rw [set_stamp isOwn prepared.hasId]
    exact agrees_stamp (isOwn.set_id _)
  · intro text isText
    rw [get?_stamp_of_notMem (by decide)] at isText
    exact Option.some.inj ((documentId?_of_get? isText).symm.trans prepared.identified)

end

/-- The document in a store that holds one. -/
def Store.storedDocument : Fields :=
  [("Id", .int 1), ("id", .int 1), ("_rid", .string "R3"), ("_ts", .int 0),
    ("_self", .string "dbs/R1/colls/R2/docs/R3"), ("_etag", .string "E1"),
    ("_attachments", .string "attachments/")]

/-- A document whose identifier is a number is written back. -/
theorem Store.Reachable.writeBack_number :
    oneDocument.document? "d" "c" "1" = some storedDocument ∧
    oneDocument.answer ⟨{}, 0, .getDocument "d" "c" (.string "1")⟩ =
      .ok (.document storedDocument) ∧
    (∃ written, oneDocument.Writes ⟨{}, 1, .upsertDocument "d" "c" (.object storedDocument)⟩
        "d" "c" "1" written ∧ Agrees written storedDocument) ∧
    (∃ written, oneDocument.Writes
        ⟨{}, 1, .replaceDocument "d" "c" (.string "1") (.object storedDocument)⟩
        "d" "c" "1" written ∧ Agrees written (storedDocument.set "id" (.string "1"))) ∧
    ∀ text, storedDocument.get? "id" = some (.string text) → text = "1" :=
  ⟨rfl, Store.Reachable.writeBack (reachable_after _) rfl⟩

/-- It does not keep its `id` when it replaces itself: the number becomes a text. -/
theorem Store.writeBack_retyped :
    oneDocument.Reachable ∧ oneDocument.document? "d" "c" "1" = some storedDocument ∧
    oneDocument.answer ⟨{}, 0, .getDocument "d" "c" (.string "1")⟩ =
      .ok (.document storedDocument) ∧
    ¬ ∃ written, oneDocument.Writes
      ⟨{}, 1, .replaceDocument "d" "c" (.string "1") (.object storedDocument)⟩
      "d" "c" "1" written ∧ Agrees written storedDocument := by
  refine ⟨reachable_after _, rfl, rfl, ?_⟩
  rintro ⟨written, writes, agrees⟩
  have isText : written.get? "id" = some (.string "1") := by
    have answered := writes.answered
    cases answered
    rfl
  have isNumber := agrees.same "id" (by decide) (by decide)
  rw [isText] at isNumber
  cases isNumber

end DocQuery
