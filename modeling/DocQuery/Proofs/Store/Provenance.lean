/-
**Where stored documents come from.**

* `Store.HasGiven`, `Store.HasTagged`: the identifiers and the tags that a store has given;
* `Stamped`: a document with system properties that a store and its clock made, behind fields of its
  user's among which there are none;
* `Consistent.stampedAt_next`, `Store.Reachable.stampedAt_run`: calls keep documents stamped;
* `Store.run_stamped`: after several calls every stored document is one.
-/

import DocQuery.Proofs.Store.Fate

namespace DocQuery

/-! ### What a store has given -/

/-- A store has given an identifier. -/
def Store.HasGiven (store : Store) (rid : String) : Prop :=
  ∃ count < store.created, rid = store.supply.rid (count + 1)

/-- A store has given a tag. -/
def Store.HasTagged (store : Store) (etag : String) : Prop :=
  ∃ count < store.writes, etag = store.supply.etag (count + 1)

section

variable {store result : Store} {rid etag : String}

theorem Store.HasGiven.mono (given : store.HasGiven rid) (continues : store.Continues result) :
    result.HasGiven rid := by
  obtain ⟨count, before, isRid⟩ := given
  exact ⟨count, Nat.lt_of_lt_of_le before continues.created, continues.supply ▸ isRid⟩

theorem Store.HasTagged.mono (tagged : store.HasTagged etag)
    (continues : store.Continues result) : result.HasTagged etag := by
  obtain ⟨count, before, isEtag⟩ := tagged
  exact ⟨count, Nat.lt_of_lt_of_le before continues.writes, continues.supply ▸ isEtag⟩

/-- What comes next is given once one more is given. -/
theorem Store.Continues.hasGiven_nextRid (continues : store.Continues result)
    (more : store.created < result.created) : result.HasGiven (Action.nextRid store) :=
  ⟨store.created, more, by rw [continues.supply, Action.nextRid]⟩

theorem Store.Continues.hasTagged_nextEtag (continues : store.Continues result)
    (more : store.writes < result.writes) : result.HasTagged (Action.nextEtag store) :=
  ⟨store.writes, more, by rw [continues.supply, Action.nextEtag]⟩

end

/-- A document that is stored under a key, with an identifier and a tag that the store has given and
one of the times at which it was called. Its other fields are its user's. -/
inductive Stamped (store : Store) (times : List Int) (link key : String) : Fields → Prop
  | intro {rid etag : String} {now : Int} {own : Fields} (given : store.HasGiven rid)
    (tagged : store.HasTagged etag) (timely : now ∈ times) (prepared : Prepared key own)
    (isOwn : Own own) (filled : key ≠ "") :
    Stamped store times link key (stamp link rid etag now own)

section

variable {store result : Store} {times others : List Int} {link key rid etag : String} {now : Int}
  {document : Fields}

theorem Stamped.mono (stamped : Stamped store times link key document)
    (continues : store.Continues result) (more : times ⊆ others) :
    Stamped result others link key document := by
  obtain ⟨given, tagged, timely, prepared, isOwn, filled⟩ := stamped
  exact ⟨given.mono continues, tagged.mono continues, more timely, prepared, isOwn, filled⟩

/-- A submitted document that is stamped. -/
theorem stamped_of_prepare {submitted : Json} {own : Fields}
    (accepted : prepare submitted = .ok (key, own)) (given : store.HasGiven rid)
    (tagged : store.HasTagged etag) (timely : now ∈ times) :
    Stamped store times link key (stamp link rid etag now own) :=
  ⟨given, tagged, timely, prepared_of_prepare accepted, own_of_prepare accepted,
    ne_empty_of_prepare accepted⟩

theorem storedRid?_stamp {own : Fields} :
    storedRid? (stamp link rid etag now own) = some rid := by
  rw [storedRid?, get?_stamp rfl]

/-- The identifier of a stamped document is one that the store has given. -/
theorem Stamped.hasGiven (stamped : Stamped store times link key document)
    (isRid : storedRid? document = some rid) : store.HasGiven rid := by
  obtain ⟨given, _, _, _, _, _⟩ := stamped
  rw [storedRid?_stamp] at isRid
  cases isRid
  exact given

/-- The link of a stamped document that is filed is below that of its container. -/
theorem Stamped.link_eq {container : Resource} (stamped : Stamped store times link key document)
    (filed : Filed container key document) : link = container.selfLink := by
  obtain ⟨_, _, _, _, _, _⟩ := stamped
  obtain ⟨rid, isRid, isSelf⟩ := filed.linked
  rw [get?_stamp rfl] at isRid isSelf
  cases isRid
  rw [Option.some.injEq, Json.string.injEq, String.append_left_inj,
    String.append_left_inj] at isSelf
  exact isSelf

end

/-! ### Runs -/

/-- The document in a place, if there is one, is stamped. -/
def StampedAt (store : Store) (times : List Int) (database container key : String) : Prop :=
  ∀ document, store.document? database container key = some document →
    ∃ link, Stamped store times link key document

section

variable {store : Store} {database container key : String} {times : List Int}

theorem Consistent.stampedAt_next (consistent : Consistent store)
    (stamped : StampedAt store times database container key) (call : Call) :
    StampedAt (store.next call) (times ++ [call.now]) database container key := by
  intro document found
  have timely : call.now ∈ times ++ [call.now] := List.mem_append_right _ List.mem_cons_self
  have fate := consistent.fate_next call database container key
  have continues := consistent.continues_next call
  unfold StampedAt at stamped
  rw [found] at fate
  generalize store.document? database container key = before at fate stamped
  cases fate with
  | kept =>
    obtain ⟨link, before⟩ := stamped document rfl
    exact ⟨link, before.mono continues (List.subset_append_left _ _)⟩
  | created shelf accepted given tagged =>
    exact ⟨_, stamped_of_prepare accepted (continues.hasGiven_nextRid given)
      (continues.hasTagged_nextEtag tagged) timely⟩
  | rewritten shelf isRid accepted tagged =>
    obtain ⟨link, before⟩ := stamped _ rfl
    exact ⟨_, stamped_of_prepare accepted ((before.hasGiven isRid).mono continues)
      (continues.hasTagged_nextEtag tagged) timely⟩

theorem Store.Reachable.stampedAt_run (reachable : store.Reachable)
    (stamped : StampedAt store times database container key) (calls : List Call) :
    StampedAt (store.run calls) (times ++ calls.map Call.now) database container key := by
  induction calls generalizing store times with
  | nil =>
    rw [List.map_nil, List.append_nil]
    exact stamped
  | cons call more ih =>
    rw [List.map_cons, List.append_cons]
    exact ih (reachable.next call) (reachable.consistent.stampedAt_next stamped call)

end

/-- **The system properties of every stored document were made by the store.** -/
theorem Store.run_stamped (supply : IdSupply) (calls : List Call) {database container key : String}
    {document : Fields}
    (found : (Store.run { supply } calls).document? database container key = some document) :
    ∃ owner, (Store.run { supply } calls).container? database container = some owner ∧
      Stamped (Store.run { supply } calls) (calls.map Call.now) owner.selfLink key document := by
  have consistent := ((Store.Reachable.fresh supply).run calls).consistent
  obtain ⟨shelf, isDocument⟩ := consistent.shelf_of_document? found
  have everywhere : StampedAt _ ([] ++ calls.map Call.now) database container key :=
    (Store.Reachable.fresh supply).stampedAt_run (fun _ => nofun) calls
  obtain ⟨link, stamped⟩ := everywhere document found
  obtain rfl := stamped.link_eq ((shelf.filedIn consistent).filed _ _ isDocument)
  exact ⟨shelf.owner, shelf.container?_eq, stamped⟩

end DocQuery
