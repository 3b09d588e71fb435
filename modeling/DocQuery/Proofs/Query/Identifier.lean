/-
**Projections keep the identifier.**

A projection copies the field that identifies a document first, and then sets the values that are
selected. That keeps the identifier unless the field is null, or a path leads into it by names of
another letter case.

* `Selection.SpellsInto`: the selected paths that lead into a field spell it as the document does;
* `get?_project`: such a field is the same in a projection. `get?_project_closed` says that nothing
  is ever set inside a field that is no object;
* `Query.identifier_of_read`: when what is selected of a document is identified as the document is.
-/

import DocQuery.Proofs.Query.Projection
import DocQuery.Proofs.Store.Document

namespace DocQuery

/-- The selected paths that lead to something inside a field have the names that the document
has. -/
def SpelledInto (aliases names : List String) (document : Fields) (field : String) : Prop :=
  ∀ path ∈ names, ∀ next more, selectedSegments aliases path = field :: next :: more →
    (follow? (.object document) (field :: next :: more)).isSome →
    (exactly? (.object document) (field :: next :: more)).isSome

/-- What a selection takes from inside a field is spelled as in the document. -/
def Selection.SpellsInto (aliases : List String) (document : Fields) (field : String) :
    Selection → Prop
  | .all => True
  | .paths names => SpelledInto aliases names document field

section

variable {aliases names : List String} {document projected : Fields} {path field : String}

/-! ### One property -/

section

variable (identified : (identifierField? document).isSome) (isPath : isIdentifierPath [field])

include identified isPath

/-- A field that identifies is changed by a path that leads into it only. -/
theorem get?_copyTo_cases (named : path ≠ "*") :
    (copyTo aliases document projected path).get? field = projected.get? field ∨
      ∃ next more value, selectedSegments aliases path = field :: next :: more ∧
        follow? (.object document) (field :: next :: more) = some value ∧
        copyTo aliases document projected path = setPath projected field (next :: more) value := by
  obtain same | ⟨segment, more, value, isSegments, free, followed, set⟩ :=
    copyTo_cases named aliases document projected
  · rw [same]
    exact .inl rfl
  by_cases here : field = segment
  · subst here
    cases more with
    | nil => exact absurd ⟨identified, isPath⟩ free
    | cons next more => exact .inr ⟨next, more, value, isSegments, followed, set⟩
  · rw [set]
    exact .inl (get?_setPath_of_ne _ _ _ here more)

/-- A field that identifies is not changed by a path that spells what is in it. -/
theorem get?_copyTo (spelled : SpelledInto aliases names document field) (member : path ∈ names)
    (named : path ≠ "*") (kept : projected.get? field = document.get? field) :
    (copyTo aliases document projected path).get? field = document.get? field := by
  obtain same | ⟨next, more, value, isSegments, followed, set⟩ :=
    get?_copyTo_cases identified isPath named
  · exact same.trans kept
  · obtain ⟨found, reached⟩ := Option.isSome_iff_exists.mp
      (spelled path member next more isSegments (followed ▸ rfl))
    cases (follow?_of_exactly? reached).symm.trans followed
    -- The whole field was copied first, so the path leads to this value in the projection already.
    rw [exactly?_cons, ← kept, ← exactly?_cons] at reached
    rw [set, setPath_of_exactly? reached]
    exact kept

/-- Nothing is set in a field that identifies if it is no object in the document. -/
theorem get?_copyTo_closed {value : Json} (found : document.get? field = some value)
    (single : value.isObject = false) (named : path ≠ "*") :
    (copyTo aliases document projected path).get? field = projected.get? field := by
  obtain same | ⟨next, more, other, -, followed, -⟩ :=
    get?_copyTo_cases identified isPath named
  · exact same
  · rw [follow?_cons, lookupKey?_of_get? found] at followed
    obtain ⟨inner, rfl⟩ := exists_of_follow?_cons followed
    cases single

end

/-! ### All properties -/

theorem isIdentifierPath_id : isIdentifierPath ["id"] := by decide +kernel

theorem isIdentifierPath_Id : isIdentifierPath ["Id"] := by decide +kernel

section

variable (identified : (identifierField? document).isSome) (isPath : isIdentifierPath [field])
  (named : ∀ path ∈ names, path ≠ "*")

include identified isPath named

/-- A field that identifies a document is the same in a projection that spells what is in it. -/
theorem get?_project (spelled : SpelledInto aliases names document field)
    (first : Table.get? (identifierField? document).toList field = document.get? field) :
    (project aliases names document).get? field = document.get? field := by
  rw [project_eq]
  exact List.foldlRecOn (motive := fun projected => Table.get? projected field = _) names _ first
    fun _ kept path member => get?_copyTo identified isPath spelled member (named path member) kept

/-- In a projection nothing is set in a field that identifies if it is no object. -/
theorem get?_project_closed {value : Json} (found : document.get? field = some value)
    (single : value.isObject = false) :
    (project aliases names document).get? field =
      Table.get? (identifierField? document).toList field := by
  rw [project_eq]
  exact List.foldlRecOn (motive := fun projected => Table.get? projected field = _) names _ rfl
    fun _ kept path member =>
      (get?_copyTo_closed identified isPath found single (named path member)).trans kept

end

/-! ### The identifier -/

theorem identifierField?_of_id {value : Json} (found : document.get? "id" = some value) :
    identifierField? document = some ("id", value) := by
  unfold identifierField?
  rw [found]

theorem identifierField?_of_Id (absent : document.get? "id" = none) :
    identifierField? document = (document.get? "Id").map (Prod.mk "Id") := by
  unfold identifierField?
  rw [absent]

/-- A document is not identified by fields that are null or missing. -/
theorem documentId?_eq_none (first : document.get? "id" = none ∨ document.get? "id" = some .null)
    (second : document.get? "Id" = none ∨ document.get? "Id" = some .null) :
    documentId? document = none := by
  unfold documentId? identifierValue?
  obtain first | first := first <;> obtain second | second := second <;> rw [first, second] <;> rfl

/-- A document with an identifier, but without one in `id`, has one in `Id`. -/
theorem exists_Id (identified : documentId? document ≠ none)
    (other : document.get? "id" = none ∨ document.get? "id" = some .null) :
    ∃ value, document.get? "Id" = some value := by
  cases found : document.get? "Id" with
  | some value => exact ⟨value, rfl⟩
  | none => exact absurd (documentId?_eq_none other (.inl found)) identified

theorem isSome_identifierField? (identified : documentId? document ≠ none) :
    (identifierField? document).isSome := by
  cases found : document.get? "id" with
  | some value => exact identifierField?_of_id found ▸ rfl
  | none =>
    obtain ⟨value, isValue⟩ := exists_Id identified (.inl found)
    rw [identifierField?_of_Id found, isValue]
    rfl

variable (identified : documentId? document ≠ none) (named : ∀ path ∈ names, path ≠ "*")

include identified named

/-- A projection keeps the identifier of a document whose `id` is not null, if what is selected from
inside the fields that identify is spelled as in the document. -/
theorem documentId?_project (notNull : document.get? "id" ≠ some .null)
    (spelled : SpelledInto aliases names document "id")
    (spelled' : document.get? "id" = none → SpelledInto aliases names document "Id") :
    documentId? (project aliases names document) = documentId? document := by
  have isSome := isSome_identifierField? identified
  cases found : document.get? "id" with
  | some value =>
    have kept := get?_project isSome isIdentifierPath_id named spelled (by
      rw [identifierField?_of_id found, found]
      rfl)
    have some' : value ≠ .null := fun isNull => notNull (isNull ▸ found)
    unfold documentId?
    rw [identifierValue?_of_get? found some', identifierValue?_of_get? (kept.trans found) some']
  | none =>
    obtain ⟨value, isValue⟩ := exists_Id identified (.inl found)
    have first : identifierField? document = some ("Id", value) := by
      rw [identifierField?_of_Id found, isValue]
      rfl
    have kept := get?_project isSome isIdentifierPath_id named spelled (by
      rw [first, found]
      rfl)
    have kept' := get?_project isSome isIdentifierPath_Id named (spelled' found) (by
      rw [first, isValue]
      rfl)
    unfold documentId?
    rw [identifierValue?_congr (by simpa using ⟨kept, kept'⟩)]

/-- A projection loses the identifier of a document whose `id` is null, unless it selects something
from inside its `Id`. -/
theorem documentId?_project_null (isNull : document.get? "id" = some .null)
    (single : ∀ fields, document.get? "Id" ≠ some (.object fields)) :
    documentId? (project aliases names document) = none := by
  have isSome := isSome_identifierField? identified
  have first := identifierField?_of_id isNull
  obtain ⟨value, isValue⟩ := exists_Id identified (.inr isNull)
  have flat : value.isObject = false := by
    cases value with
    | object fields => exact absurd isValue (single fields)
    | null | bool _ | int _ | float _ | string _ | array _ => rfl
  have kept : (project aliases names document).get? "id" = _ :=
    get?_project_closed isSome isIdentifierPath_id named isNull rfl
  have kept' : (project aliases names document).get? "Id" = _ :=
    get?_project_closed isSome isIdentifierPath_Id named isValue flat
  rw [first] at kept kept'
  exact documentId?_eq_none (.inr kept) (.inl kept')

end

namespace Query

/-- **Projections keep the identifier.** What a query that is read selects of a document with an
identifier is identified as the document is, whatever names stand for the collection, if its `id` is
not null and what is selected from inside the fields that identify is spelled as in the document. If
the `id` is null and the `Id` is no object, what is selected has no identifier. -/
theorem identifier_of_read {text : String} {query : Query} (accepted : read text = .ok query)
    (aliases : List String) {document : Fields} (identified : documentId? document ≠ none) :
    (document.get? "id" ≠ some .null → query.selection.SpellsInto aliases document "id" →
      (document.get? "id" = none → query.selection.SpellsInto aliases document "Id") →
      documentId? (query.selection.apply aliases document) = documentId? document) ∧
    (document.get? "id" = some .null → (∀ fields, document.get? "Id" ≠ some (.object fields)) →
      query.selection ≠ .all →
      documentId? (query.selection.apply aliases document) = none) := by
  cases selected : query.selection with
  | all => exact ⟨fun _ _ _ => rfl, fun _ _ other => absurd rfl other⟩
  | paths names =>
    have named : ∀ path ∈ names, path ≠ "*" := fun path member =>
      (((writable_of_read accepted).selection names selected).2 path member).ne_star
    exact ⟨documentId?_project identified named, fun isNull single _ =>
      documentId?_project_null identified named isNull single⟩

/-- A document whose identifier is an object. -/
def nestedId : Fields := [("id", .object [("a", .int 1)]), ("n", .int 2)]

/-- A document whose `id` is null. -/
def nullId : Fields := [("id", .null), ("Id", .string "x"), ("name", .string "a")]

/-- Of the one document a part of its identifier is selected, and the other one is not identified
by its first field. -/
theorem identifier_of_read_nested :
    (∃ query, read "SELECT c.id.a, c.n FROM c" = .ok query ∧
      query.selection = .paths ["c.id.a", "c.n"] ∧
      documentId? (query.selection.apply ["c"] nestedId) = documentId? nestedId) ∧
    ∃ query, read "SELECT c.name FROM c" = .ok query ∧ documentId? nullId = some "x" ∧
      documentId? (query.selection.apply ["c"] nullId) = none := by
  constructor
  · obtain ⟨query, accepted, selected⟩ := exists_of_any
      (show (read "SELECT c.id.a, c.n FROM c").toOption.any (fun query =>
        query.selection = .paths ["c.id.a", "c.n"]) by decide +kernel)
    have selected := of_decide_eq_true selected
    have identified : documentId? nestedId ≠ none := by decide +kernel
    refine ⟨query, accepted, selected,
      (identifier_of_read accepted ["c"] identified).1 nofun ?_ nofun⟩
    rw [selected]
    intro path member next more isSegments _
    obtain rfl | rfl : path = "c.id.a" ∨ path = "c.n" := by simpa using member
    · have : selectedSegments ["c"] "c.id.a" = ["id", "a"] := by decide +kernel
      cases this.symm.trans isSegments
      rfl
    · have : selectedSegments ["c"] "c.n" = ["n"] := by decide +kernel
      exact absurd (this.symm.trans isSegments) (by simp)
  · obtain ⟨query, accepted, selected⟩ := exists_of_any
      (show (read "SELECT c.name FROM c").toOption.any (fun query =>
        query.selection ≠ .all) by decide +kernel)
    have selected := of_decide_eq_true selected
    have identified : documentId? nullId ≠ none := by decide +kernel
    exact ⟨query, accepted, rfl,
      (identifier_of_read accepted ["c"] identified).2 rfl nofun selected⟩

/-- An identifier that is lost, and one that gets another field. -/
theorem identifier_changed :
    (∃ query, read "SELECT c.name FROM c" = .ok query ∧ documentId? nullId = some "x" ∧
      documentId? (query.selection.apply ["c"] nullId) = none) ∧
    ∃ query, read "SELECT c.id.A FROM c" = .ok query ∧ documentId? nestedId ≠ none ∧
      documentId? (query.selection.apply ["c"] nestedId) ≠ documentId? nestedId := by
  constructor
  · obtain ⟨query, accepted, lost⟩ := exists_of_any
      (show (read "SELECT c.name FROM c").toOption.any (fun query =>
        documentId? (query.selection.apply ["c"] nullId) = none) by decide +kernel)
    exact ⟨query, accepted, rfl, of_decide_eq_true lost⟩
  · obtain ⟨query, accepted, changed⟩ := exists_of_any
      (show (read "SELECT c.id.A FROM c").toOption.any (fun query =>
        documentId? (query.selection.apply ["c"] nestedId) ≠ documentId? nestedId) by
          decide +kernel)
    exact ⟨query, accepted, by decide +kernel, of_decide_eq_true changed⟩

end Query

end DocQuery
