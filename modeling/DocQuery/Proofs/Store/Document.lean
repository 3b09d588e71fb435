/-
**Stored documents are filed under their identifiers.**

* `Prepared`: a document has an identifier, and an `id` that is not null. `prepared_of_prepare` says
  that every submitted document that is not refused is such a one;
* `Filed`: a document is filed under its identifier and carries the system properties, with a link
  below that of its container;
* `Own`: a document without system properties;
* `filed_stamp`: a prepared document is filed once it is stamped;
* `userFields_stamp`: a stamp does not touch what the user gave;
* `prepare_of_prepared`: a document that was prepared once is accepted as it is.
-/

import DocQuery.Proofs.Table
import DocQuery.Store.Document
import DocQuery.Store.Resource

namespace DocQuery

/-! ### Identifiers -/

/-- A field holds a value other than null. -/
def HasValue (document : Fields) (name : String) : Prop :=
  ∃ value, document.get? name = some value ∧ value ≠ .null

theorem identifierValue?_of_get? {document : Fields} {value : Json}
    (found : document.get? "id" = some value) (some : value ≠ .null) :
    identifierValue? document = value := by
  unfold identifierValue?
  split
  · next isNull =>
    rw [found] at isNull
    exact absurd (Option.some.inj isNull) some
  · next absent =>
    rw [found] at absent
    cases absent
  · next other _ isOther => exact isOther.symm.trans found

theorem identifierValue?_ne_null {document : Fields} {value : Json}
    (found : identifierValue? document = some value) : value ≠ .null := by
  unfold identifierValue? at found
  split at found
  · split at found
    · cases found
    · cases found
    · next isNull _ =>
      cases found
      exact isNull
  · split at found
    · cases found
    · cases found
    · next isNull _ =>
      cases found
      exact isNull
  · next isNull _ =>
    cases found
    exact isNull

theorem identifierValue?_congr {document other : Fields}
    (same : ∀ name ∈ ["id", "Id"], document.get? name = other.get? name) :
    identifierValue? document = identifierValue? other := by
  unfold identifierValue?
  rw [same "id" (by decide), same "Id" (by decide)]

theorem documentId?_of_get? {document : Fields} {id : String}
    (found : document.get? "id" = some (.string id)) : documentId? document = some id := by
  unfold documentId?
  rw [identifierValue?_of_get? found nofun]
  rfl

/-! ### Submitted documents -/

/-- A document has an identifier, and an `id` that is not null. -/
structure Prepared (id : String) (document : Fields) : Prop where
  identified : documentId? document = some id
  hasId : HasValue document "id"

/-- The `id` of a document that has one says what identifies it. -/
theorem Prepared.of_identifier {id : String} {document : Fields} {identifier : Json}
    (found : document.get? "id" = some identifier) (some : identifier ≠ .null)
    (text : (Operand.json identifier).toText? = id) : Prepared id document := by
  refine ⟨?_, identifier, found, some⟩
  unfold documentId?
  rw [identifierValue?_of_get? found some]
  exact text

/-- The identifier of a document counts as its `id`. -/
theorem prepared_withIdField {id : String} {document : Fields} {identifier : Json}
    (found : identifierValue? document = some identifier)
    (text : (Operand.json identifier).toText? = some id) :
    Prepared id (withIdField document identifier) := by
  have some := identifierValue?_ne_null found
  have added : Prepared id (document.set "id" identifier) :=
    .of_identifier (Table.get?_set_self document "id" identifier) some text
  unfold withIdField
  split
  · exact added
  · exact added
  · next value isNull isValue =>
    have some' : value ≠ .null := isNull
    rw [identifierValue?_of_get? isValue some'] at found
    cases found
    exact .of_identifier isValue some text

/-- **Every submitted document that is not refused is prepared.** -/
theorem prepared_of_prepare {document : Json} {id : String} {prepared : Fields}
    (accepted : prepare document = .ok (id, prepared)) : Prepared id prepared := by
  unfold prepare at accepted
  split at accepted
  · next fields =>
    dsimp only at accepted
    split at accepted
    · next identifier id' isIdentifier isId =>
      split at accepted
      · cases accepted
      · cases accepted
        refine prepared_withIdField isIdentifier ?_
        rwa [documentId?, isIdentifier] at isId
    · cases accepted
  · cases accepted

theorem get?_userFields {document : Fields} {name : String} (own : name ∉ systemProperties) :
    (userFields document).get? name = document.get? name :=
  Table.get?_filter fun _ => by simpa using own

theorem userFields_userFields (document : Fields) :
    userFields (userFields document) = userFields document := by
  unfold userFields
  rw [List.filter_filter]
  simp only [Bool.and_self]

/-- A field of the user's can be set before or after the system properties are dropped. -/
theorem userFields_set {name : String} (own : name ∉ systemProperties) (document : Fields)
    (value : Json) :
    userFields (document.set name value) = (userFields document).set name value :=
  Table.filter_set (fun _ => by simpa using own) value

/-- A document without system properties. -/
def Own (document : Fields) : Prop := ∀ name ∈ document.keys, name ∉ systemProperties

theorem own_userFields (document : Fields) : Own (userFields document) := by
  intro name present
  obtain ⟨field, kept, rfl⟩ := List.mem_map.mp present
  simpa using (List.mem_filter.mp kept).2

theorem Own.set_id {document : Fields} (own : Own document) (value : Json) :
    Own (document.set "id" value) := by
  intro name present
  rw [Table.keys_set] at present
  split at present
  · exact own name present
  · obtain old | isId := List.mem_append.mp present
    · exact own name old
    · rw [List.mem_singleton.mp isId]
      decide

/-- What becomes of a submitted document depends on the fields of its user only. -/
theorem prepare_congr {fields others : Fields} (same : userFields fields = userFields others) :
    prepare (.object fields) = prepare (.object others) := by
  simp only [prepare, same]

/-- A document that has an `id` needs no other one. -/
theorem withIdField_of_hasId {document : Fields} (hasId : HasValue document "id")
    (identifier : Json) : withIdField document identifier = document := by
  obtain ⟨value, found, some⟩ := hasId
  unfold withIdField
  rw [found]
  split
  · next isNull => exact absurd (Option.some.inj isNull) some
  · next isNone => cases isNone
  · rfl

/-- What identifies a document becomes its `id`. -/
theorem withIdField_eq_set {document : Fields} {identifier : Json}
    (found : identifierValue? document = identifier) :
    withIdField document identifier = document.set "id" identifier := by
  unfold withIdField
  split
  · rfl
  · rfl
  · next value isNull isValue =>
    rw [identifierValue?_of_get? isValue isNull] at found
    cases found
    exact (Table.set_of_get? isValue).symm

/-- What is prepared already is accepted as it is, with any system properties. -/
theorem prepare_of_prepared {id : String} {own fields : Fields} (prepared : Prepared id own)
    (filled : id ≠ "") (isOwn : userFields fields = own) :
    prepare (.object fields) = .ok (id, own) := by
  obtain ⟨value, found, some⟩ := prepared.hasId
  have isIdentifier : identifierValue? own = value := identifierValue?_of_get? found some
  have kept := withIdField_of_hasId prepared.hasId value
  simp only [prepare, isOwn, isIdentifier, prepared.identified, kept]
  exact if_neg (by simpa using filled)

/-- Nothing is kept of the system properties of a submitted document. -/
theorem own_of_prepare {document : Json} {id : String} {prepared : Fields}
    (accepted : prepare document = .ok (id, prepared)) : Own prepared := by
  unfold prepare at accepted
  split at accepted
  · dsimp only at accepted
    split at accepted
    · split at accepted <;> cases accepted
      unfold withIdField
      split
      · exact (own_userFields _).set_id _
      · exact (own_userFields _).set_id _
      · exact own_userFields _
    · cases accepted
  · cases accepted

/-- An identifier is not empty. -/
theorem ne_empty_of_prepare {document : Json} {id : String} {prepared : Fields}
    (accepted : prepare document = .ok (id, prepared)) : id ≠ "" := by
  unfold prepare at accepted
  split at accepted
  · dsimp only at accepted
    split at accepted
    · next id' _ _ =>
      split at accepted
      · cases accepted
      · next filled =>
        cases accepted
        rintro rfl
        exact filled rfl
    · cases accepted
  · cases accepted

/-- A document with a given `id` is identified by it. -/
theorem eq_of_prepare {fields : Fields} {id key : String} {prepared : Fields}
    (given : fields.get? "id" = some (.string key))
    (accepted : prepare (.object fields) = .ok (id, prepared)) : id = key := by
  have found : documentId? (userFields fields) = some key := by
    refine documentId?_of_get? ?_
    rw [get?_userFields (by decide)]
    exact given
  unfold prepare at accepted
  dsimp only at accepted
  split at accepted
  · next identifier id' isIdentifier isId =>
    rw [found] at isId
    cases isId
    split at accepted <;> cases accepted
    rfl
  · cases accepted

/-! ### Stamped documents -/

/-- A document is filed under its identifier and carries the system properties, with a link below
that of its container. -/
structure Filed (container : Resource) (id : String) (document : Fields) : Prop where
  identified : documentId? document = some id
  hasId : HasValue document "id"
  stamped : ∀ name ∈ systemProperties, (document.get? name).isSome
  linked : ∃ rid, document.get? "_rid" = some (.string rid) ∧
    document.get? "_self" = some (.string (container.selfLink ++ "/docs/" ++ rid))

section

variable {container rid etag : String} {now : Int} {document : Fields}

theorem keys_systemFields :
    Table.keys (systemFields container rid etag now) = systemProperties := rfl

/-- A stamp leaves all other fields alone. -/
theorem get?_stamp_of_notMem {name : String} (own : name ∉ systemProperties) :
    (stamp container rid etag now document).get? name = document.get? name :=
  Table.get?_setAll_of_notMem own

/-- A stamp sets the system properties. -/
theorem get?_stamp {name : String} {value : Json}
    (given : (systemFields container rid etag now).get? name = some value) :
    (stamp container rid etag now document).get? name = some value :=
  Table.get?_setAll_of_get? (by rw [keys_systemFields]; decide) given

end

/-- A stamp stands behind what the user gave. -/
theorem stamp_eq_append {container rid etag : String} {now : Int} {document : Fields}
    (own : Own document) : stamp container rid etag now document =
      document ++ systemFields container rid etag now :=
  Table.setAll_of_notMem (by rw [keys_systemFields]; decide)
    fun name isSystem isOwn => own name isOwn isSystem

/-- **A stamp does not touch what the user gave.** -/
theorem userFields_stamp {container rid etag : String} {now : Int} {document : Fields}
    (own : Own document) :
    userFields (stamp container rid etag now document) = document := by
  have kept : ∀ field ∈ document, !systemProperties.contains field.1 := fun field member => by
    simpa using own field.1 (List.mem_map_of_mem member)
  rw [stamp_eq_append own, userFields, List.filter_append, List.filter_eq_self.mpr kept]
  exact List.append_nil document

/-- **A prepared document is filed once it is stamped.** -/
theorem filed_stamp (container : Resource) (rid etag : String) (now : Int) {id : String}
    {document : Fields} (prepared : Prepared id document) :
    Filed container id (stamp container.selfLink rid etag now document) := by
  refine ⟨?_, ?_, fun name member => ?_, rid, get?_stamp rfl, get?_stamp rfl⟩
  · rw [documentId?, identifierValue?_congr fun name member => get?_stamp_of_notMem ?_]
    · exact prepared.identified
    · revert name
      decide
  · obtain ⟨value, found, some⟩ := prepared.hasId
    refine ⟨value, ?_, some⟩
    rw [get?_stamp_of_notMem (by decide)]
    exact found
  · rw [← @keys_systemFields container.selfLink rid etag now] at member
    obtain ⟨value, given⟩ := Table.mem_keys.mp member
    rw [get?_stamp given]
    rfl

/-- A submitted document is filed once it is stamped. -/
theorem filed_of_prepare {container : Resource} {rid etag id : String} {now : Int}
    {document : Json} {prepared written : Fields} (accepted : prepare document = .ok (id, prepared))
    (isWritten : written = stamp container.selfLink rid etag now prepared) :
    Filed container id written := by
  rw [isWritten]
  exact filed_stamp container rid etag now (prepared_of_prepare accepted)

/-- What is filed has an identifier that the store gave it. -/
theorem Filed.exists_rid {container : Resource} {id : String} {document : Fields}
    (filed : Filed container id document) : ∃ rid, storedRid? document = some rid := by
  obtain ⟨rid, found, -⟩ := filed.linked
  exact ⟨rid, by rw [storedRid?, found]⟩

end DocQuery
