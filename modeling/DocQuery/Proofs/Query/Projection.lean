/-
**Projections are sound and complete.**

* `DrawnFrom`: what exact names lead to in an object is found in a document. Setting a value that is
  found keeps this (`DrawnFrom.setPath`), also if paths overlap or differ in letter case;
* `exactly?_setPath_kept`: such a value does not displace one that exact names lead to;
* `IsProjection`: the projected part of a document is sound, complete on exact names, and begins
  with the identifier. `Query.isProjection_of_read` says that it is so for what queries select.
-/

import DocQuery.Proofs.Query.Path
import DocQuery.Proofs.Query.Rendering
import DocQuery.Query.Execute

namespace DocQuery

section

variable {document projected inner : Fields} {segment : String} {more : List String}

/-! ### Soundness -/

/-- What exact names lead to in an object is found in a document. If it is an object, what is found
is an object too and may have more fields. -/
def DrawnFrom (document projected : Fields) : Prop :=
  ∀ segments value, exactly? (.object projected) segments = some value →
    ∃ found, follow? (.object document) segments = some found ∧
      (value = found ∨ value.isObject ∧ found.isObject)

theorem drawnFrom_nil (document : Fields) : DrawnFrom document [] := by
  intro segments value reached
  cases segments with
  | nil =>
    cases reached
    exact ⟨_, rfl, .inr ⟨rfl, rfl⟩⟩
  | cons segment more => cases reached

/-- What is in a field is drawn from what is found in the document under its name. -/
theorem DrawnFrom.childFields (drawn : DrawnFrom document projected)
    (isInner : lookupKey? document segment = some (.object inner)) :
    DrawnFrom inner (childFields projected segment) := by
  intro segments value reached
  cases segments with
  | nil =>
    cases reached
    exact ⟨_, rfl, .inr ⟨rfl, rfl⟩⟩
  | cons next rest =>
    rw [exactly?_childFields] at reached
    obtain ⟨found, isFound, agrees⟩ := drawn _ _ reached
    rw [follow?_cons, isInner] at isFound
    exact ⟨found, isFound, agrees⟩

/-- Setting a value that is found in the document draws from it. -/
theorem DrawnFrom.setPath (drawn : DrawnFrom document projected) {value : Json}
    (followed : follow? (.object document) (segment :: more) = some value) :
    DrawnFrom document (setPath projected segment more value) := by
  intro segments found reached
  induction segments generalizing document projected segment more with
  | nil =>
    cases reached
    exact ⟨_, rfl, .inr ⟨rfl, rfl⟩⟩
  | cons key rest ih =>
    by_cases same : key = segment
    · subst same
      obtain ⟨child, isChild, followed⟩ := Option.bind_eq_some_iff.mp followed
      cases more with
      | nil =>
        cases followed
        rw [exactly?_setPath_last] at reached
        rw [follow?_cons, isChild]
        exact ⟨found, follow?_of_exactly? reached, .inl rfl⟩
      | cons next more =>
        obtain ⟨inner, rfl⟩ := exists_of_follow?_cons followed
        rw [exactly?_setPath_more] at reached
        rw [follow?_cons, isChild]
        exact ih (drawn.childFields isChild) followed reached
    · rw [exactly?_setPath_of_ne _ _ _ same] at reached
      exact drawn _ _ reached

/-! ### Completeness -/

/-- A value that is found in the document does not displace one, other than an object, that exact
names lead to in the document as well as in what is drawn from it. -/
theorem exactly?_setPath_kept {segments : List String} {value other : Json}
    (kept : exactly? (.object projected) segments = some value)
    (spelled : exactly? (.object document) segments = some value)
    (single : value.isObject = false)
    (followed : follow? (.object document) (segment :: more) = some other) :
    exactly? (.object (setPath projected segment more other)) segments = some value := by
  induction segments generalizing document projected segment more with
  | nil =>
    cases kept
    cases single
  | cons key rest ih =>
    by_cases same : key = segment
    · subst same
      obtain ⟨child, isChild, spelled⟩ := Option.bind_eq_some_iff.mp spelled
      rw [follow?_cons, lookupKey?_of_get? isChild] at followed
      cases more with
      | nil =>
        cases followed
        rw [exactly?_setPath_last]
        exact spelled
      | cons next more =>
        obtain ⟨inner, rfl⟩ := exists_of_follow?_cons followed
        cases rest with
        | nil =>
          cases spelled
          cases single
        | cons name rest =>
          rw [exactly?_setPath_more]
          rw [← exactly?_childFields] at kept
          exact ih kept spelled followed
    · rw [exactly?_setPath_of_ne _ _ _ same]
      exact kept

/-! ### One property -/

/-- The names of a selected path behind an alias of the collection. -/
def selectedSegments (aliases : List String) (path : String) : List String :=
  stripAlias aliases (pathSegments path)

/-- A path is no more than the name of the identifier, and that is copied anyway. -/
def IsIdentified (document : Fields) (segments : List String) : Prop :=
  (identifierField? document).isSome ∧ isIdentifierPath segments

variable {aliases : List String} {path : String}

/-- Copies the value at the end of a path to what is projected of a document. -/
def copyTo (aliases : List String) (document projected : Fields) (path : String) : Fields :=
  copyProperty aliases document (identifierField? document).isSome projected path

theorem project_eq (aliases names : List String) (document : Fields) :
    project aliases names document =
      names.foldl (copyTo aliases document) (identifierField? document).toList := rfl

/-- A value that is found is set at the end of the path. -/
theorem copyTo_of_follow? (named : path ≠ "*") {value : Json}
    (isSegments : selectedSegments aliases path = segment :: more)
    (other : ¬ IsIdentified document (segment :: more))
    (followed : follow? (.object document) (segment :: more) = some value) :
    copyTo aliases document projected path = setPath projected segment more value := by
  have found : valueAt? aliases (.object document) path = some value := by
    rw [valueAt?, if_neg named, ← selectedSegments, isSegments, followed]
  have free : ¬ ((identifierField? document).isSome && isIdentifierPath (segment :: more)) := by
    rw [Bool.and_eq_true]
    exact other
  rw [copyTo, copyProperty, ← selectedSegments, isSegments, found]
  exact if_neg free

/-- Nothing else is ever set. -/
theorem copyTo_cases (named : path ≠ "*") (aliases : List String) (document projected : Fields) :
    copyTo aliases document projected path = projected ∨
      ∃ segment more value, selectedSegments aliases path = segment :: more ∧
        ¬ IsIdentified document (segment :: more) ∧
        follow? (.object document) (segment :: more) = some value ∧
        copyTo aliases document projected path = setPath projected segment more value := by
  unfold copyTo copyProperty
  dsimp only
  split
  · exact .inl rfl
  next other =>
  split
  · next value segment more found isSegments =>
    rw [isSegments, Bool.and_eq_true] at other
    rw [valueAt?, if_neg named, isSegments] at found
    exact .inr ⟨segment, more, value, isSegments, other, found, rfl⟩
  · exact .inl rfl

theorem DrawnFrom.copyTo (drawn : DrawnFrom document projected) (named : path ≠ "*") :
    DrawnFrom document (copyTo aliases document projected path) := by
  obtain same | ⟨segment, more, value, -, -, followed, set⟩ :=
    copyTo_cases named aliases document projected
  · rw [same]
    exact drawn
  · rw [set]
    exact drawn.setPath followed

theorem exactly?_copyTo_kept {segments : List String} {value : Json}
    (kept : exactly? (.object projected) segments = some value)
    (spelled : exactly? (.object document) segments = some value)
    (single : value.isObject = false) (named : path ≠ "*") :
    exactly? (.object (copyTo aliases document projected path)) segments = some value := by
  obtain same | ⟨segment, more, other, -, -, followed, set⟩ :=
    copyTo_cases named aliases document projected
  · rw [same]
    exact kept
  · rw [set]
    exact exactly?_setPath_kept kept spelled single followed

/-! ### The identifier -/

variable {key : String} {value : Json}

theorem identifierField?_eq_some (isIdentifier : identifierField? document = some (key, value)) :
    document.get? key = some value ∧ isIdentifierPath [key] := by
  unfold identifierField? at isIdentifier
  split at isIdentifier
  · next found =>
    cases isIdentifier
    exact ⟨found, by decide +kernel⟩
  · obtain ⟨found, isFound, same⟩ := Option.map_eq_some_iff.mp isIdentifier
    cases same
    exact ⟨isFound, by decide +kernel⟩

/-- Setting another field does not touch the first one. -/
theorem head?_setPath {other : Json} (first : projected.head? = some (key, value))
    (apart : key ≠ segment) :
    (setPath projected segment more other).head? = some (key, value) := by
  cases projected with
  | nil => cases first
  | cons entry rest =>
    cases first
    cases more <;> simp [setPath, Table.set, apart]

/-- An identifier in front stays there. -/
theorem head?_copyTo (isIdentifier : identifierField? document = some (key, value))
    (single : value.isObject = false) (first : projected.head? = some (key, value))
    (named : path ≠ "*") :
    (copyTo aliases document projected path).head? = some (key, value) := by
  obtain ⟨found, isPath⟩ := identifierField?_eq_some isIdentifier
  obtain same | ⟨segment, more, other, -, free, followed, set⟩ :=
    copyTo_cases named aliases document projected
  · rw [same]
    exact first
  rw [set]
  refine head?_setPath first ?_
  rintro rfl
  cases more with
  | nil => exact free ⟨isIdentifier ▸ rfl, isPath⟩
  | cons next more =>
    rw [follow?_cons, lookupKey?_of_get? found] at followed
    obtain ⟨inner, rfl⟩ := exists_of_follow?_cons followed
    cases single

/-! ### All properties -/

/-- The part of a document that a selection takes: what is in it comes from the document, what is
selected by exact names is in it, and the identifier stands first. -/
structure IsProjection (aliases names : List String) (document projected : Fields) : Prop where
  sound : ∀ segments value, exactly? (.object projected) segments = some value →
    value.isObject = false → follow? (.object document) segments = some value
  complete : ∀ path ∈ names, ¬ IsIdentified document (selectedSegments aliases path) →
    ∀ value, exactly? (.object document) (selectedSegments aliases path) = some value →
      value.isObject = false →
      exactly? (.object projected) (selectedSegments aliases path) = some value
  identified : ∀ key value, identifierField? document = some (key, value) →
    value.isObject = false → projected.head? = some (key, value)

section

variable {names : List String} (named : ∀ path ∈ names, path ≠ "*")

include named

theorem drawnFrom_project : DrawnFrom document (project aliases names document) := by
  rw [project_eq]
  refine List.foldlRecOn names _ ?_ fun projected drawn path member =>
    drawn.copyTo (named path member)
  cases isIdentifier : identifierField? document with
  | none => exact drawnFrom_nil document
  | some identifier =>
    obtain ⟨key, value⟩ := identifier
    have found := lookupKey?_of_get? (identifierField?_eq_some isIdentifier).1
    have followed : follow? (.object document) [key] = some value := by
      rw [follow?_cons, found]
      rfl
    exact (drawnFrom_nil document).setPath followed

theorem isProjection_project : IsProjection aliases names document (project aliases names document)
    where
  sound segments value reached single := by
    obtain ⟨found, followed, same | ⟨isObject, -⟩⟩ := drawnFrom_project named _ _ reached
    · exact same ▸ followed
    · rw [single] at isObject
      cases isObject
  complete path member other value spelled single := by
    obtain ⟨before, after, rfl⟩ := List.append_of_mem member
    rw [project_eq, List.foldl_append, List.foldl_cons]
    refine List.foldlRecOn (motive := fun projected =>
      exactly? (.object projected) (selectedSegments aliases path) = some value) after _ ?_
      fun projected kept path' behind => ?_
    · obtain ⟨segment, more, isSegments⟩ : ∃ segment more,
          selectedSegments aliases path = segment :: more := by
        cases isSegments : selectedSegments aliases path with
        | nil =>
          rw [isSegments] at spelled
          cases spelled
          cases single
        | cons segment more => exact ⟨segment, more, rfl⟩
      rw [isSegments] at other spelled ⊢
      rw [copyTo_of_follow? (named path member) isSegments other (follow?_of_exactly? spelled)]
      exact exactly?_setPath_self ..
    · exact exactly?_copyTo_kept kept spelled single
        (named path' (List.mem_append_right _ (List.mem_cons_of_mem _ behind)))
  identified key value isIdentifier single := by
    rw [project_eq]
    refine List.foldlRecOn (motive := fun projected => List.head? projected = some (key, value))
      names _ ?_ fun projected first path member => ?_
    · rw [isIdentifier]
      rfl
    · exact head?_copyTo isIdentifier single first (named path member)

end

end

/-- A path is not the sign for the whole document. -/
theorem IsPath.ne_star {path : String} (isPath : IsPath path) : path ≠ "*" := by
  obtain ⟨first, more, rfl, plain, -⟩ := isPath
  intro star
  cases more with
  | nil =>
    rw [String.intercalate_singleton] at star
    exact absurd (star ▸ plain.1) (by decide +kernel)
  | cons second others =>
    rw [String.intercalate_cons_cons] at star
    have point : '.' ∈ "*".toList := by
      rw [← star]
      simp
    exact absurd point (by decide)

namespace Query

/-- **Projections are sound and complete.** Of every document, and whatever names stand for the
collection, a query that is read takes a part in which every value at the end of exact names, if it
is no object, is found in the document, every such value that is selected by exact names is at their
end, and the identifier stands first. A path that is no more than the name of the identifier, in
whatever letter case, is left out if the document has one. -/
theorem isProjection_of_read {text : String} {query : Query} (accepted : read text = .ok query)
    {names : List String} (selected : query.selection = .paths names) (aliases : List String)
    (document : Fields) :
    IsProjection aliases names document (project aliases names document) :=
  isProjection_project fun path member =>
    (((writable_of_read accepted).selection names selected).2 path member).ne_star

/-- A document with names that differ in letter case only. -/
def twoCases : Fields :=
  [("x", .int 1), ("Id", .int 2), ("a", .object [("b", .int 3), ("B", .int 4)])]

/-- Overlapping paths in several letter cases. -/
theorem isProjection_of_read_twoCases :
    ∃ query, read "SELECT c.A.b, c.a.B, c.iD, c.a.b FROM c" = .ok query ∧
      query.selection = .paths ["c.A.b", "c.a.B", "c.iD", "c.a.b"] ∧
      IsProjection ["c"] ["c.A.b", "c.a.B", "c.iD", "c.a.b"] twoCases
        [("Id", .int 2), ("A", .object [("b", .int 3)]),
          ("a", .object [("B", .int 4), ("b", .int 3)])] := by
  obtain ⟨query, accepted, selected⟩ := exists_of_any
    (show (read "SELECT c.A.b, c.a.B, c.iD, c.a.b FROM c").toOption.any (fun query =>
      query.selection = .paths ["c.A.b", "c.a.B", "c.iD", "c.a.b"]) by decide +kernel)
  have selected := of_decide_eq_true selected
  exact ⟨query, accepted, selected, isProjection_of_read accepted selected ["c"] twoCases⟩

end Query

end DocQuery
