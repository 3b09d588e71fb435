/-
**Values at the ends of paths.**

* `exactly?`: the value at the end of a path of exact names. `follow?_of_exactly?` says that it is
  also found where the letter case of names does not count;
* `exactly?_setPath_of_ne`, `exactly?_setPath_last`, `exactly?_setPath_more`: what paths lead to in
  an object in which the value at the end of a path was set, by the recursion of `setPath`;
* `exactly?_setPath_self`: the path itself leads to the value, and `setPath_of_exactly?` says that
  setting it once more changes nothing.
-/

import DocQuery.Proofs.Table
import DocQuery.Query.Path

namespace DocQuery

/-! ### Following -/

/-- The value at the end of a path of exact names. -/
def exactly? (value : Json) : List String → Option Json
  | [] => some value
  | segment :: more => (value.field? segment).bind (exactly? · more)

section

variable {value : Json} {fields : Fields} {segment : String} {more : List String}

theorem exactly?_cons :
    exactly? (.object fields) (segment :: more) =
      (fields.get? segment).bind (exactly? · more) := rfl

theorem follow?_cons :
    follow? (.object fields) (segment :: more) =
      (lookupKey? fields segment).bind (follow? · more) := rfl

/-- A value inside which another one is found is an object. -/
theorem exists_of_follow?_cons {found : Json}
    (followed : follow? value (segment :: more) = some found) :
    ∃ fields, value = .object fields := by
  cases value with
  | object fields => exact ⟨fields, rfl⟩
  | null | bool _ | int _ | float _ | string _ | array _ => cases followed

/-- The field with an exact name comes before the ones that differ in case. -/
theorem lookupKey?_of_get? (found : fields.get? segment = some value) :
    lookupKey? fields segment = some value := by
  rw [lookupKey?, found]
  rfl

/-- What exact names lead to is found. -/
theorem follow?_of_exactly? {value found : Json} {segments : List String}
    (reached : exactly? value segments = some found) : follow? value segments = some found := by
  induction segments generalizing value with
  | nil => exact reached
  | cons segment more ih =>
    cases value with
    | object fields =>
      obtain ⟨child, isChild, reached⟩ := Option.bind_eq_some_iff.mp reached
      rw [follow?_cons, lookupKey?_of_get? isChild]
      exact ih reached
    | null | bool _ | int _ | float _ | string _ | array _ => cases reached

end

/-! ### Setting -/

section

variable (fields : Fields) (segment : String) (value : Json)

/-- What is in the object that is a field is in the field. -/
theorem exactly?_childFields (next : String) (more : List String) :
    exactly? (.object (childFields fields segment)) (next :: more) =
      exactly? (.object fields) (segment :: next :: more) := by
  rw [exactly?_cons, childFields, exactly?_cons]
  split
  · next child isChild =>
    rw [isChild]
    rfl
  · next other =>
    cases found : fields.get? segment with
    | none => rfl
    | some child =>
      cases child with
      | object inner => exact absurd found (other inner)
      | null | bool _ | int _ | float _ | string _ | array _ => rfl

/-- Setting a value in another field does not touch a field. -/
theorem get?_setPath_of_ne {key : String} (other : key ≠ segment) (more : List String) :
    (setPath fields segment more value).get? key = fields.get? key := by
  cases more <;> exact Table.get?_set_of_ne _ _ other

theorem exactly?_setPath_of_ne {key : String} (other : key ≠ segment) (more rest : List String) :
    exactly? (.object (setPath fields segment more value)) (key :: rest) =
      exactly? (.object fields) (key :: rest) := by
  rw [exactly?_cons, get?_setPath_of_ne fields segment value other more, exactly?_cons]

theorem exactly?_setPath_last (rest : List String) :
    exactly? (.object (setPath fields segment [] value)) (segment :: rest) =
      exactly? value rest := by
  rw [exactly?_cons, setPath, Table.get?_set_self]
  rfl

theorem exactly?_setPath_more (next : String) (more rest : List String) :
    exactly? (.object (setPath fields segment (next :: more) value)) (segment :: rest) =
      exactly? (.object (setPath (childFields fields segment) next more value)) rest := by
  rw [exactly?_cons, setPath, Table.get?_set_self]
  rfl

/-- The path itself leads to the value that was set. -/
theorem exactly?_setPath_self (more : List String) :
    exactly? (.object (setPath fields segment more value)) (segment :: more) = some value := by
  induction more generalizing fields segment with
  | nil => exact exactly?_setPath_last fields segment value []
  | cons next more ih =>
    rw [exactly?_setPath_more]
    exact ih (childFields fields segment) next

/-- To set a value to which exact names lead already changes nothing. -/
theorem setPath_of_exactly? {fields : Fields} {segment : String} {more : List String}
    {value : Json} (reached : exactly? (.object fields) (segment :: more) = some value) :
    setPath fields segment more value = fields := by
  induction more generalizing fields segment with
  | nil =>
    obtain ⟨child, isChild, ⟨⟩⟩ := Option.bind_eq_some_iff.mp reached
    exact Table.set_of_get? isChild
  | cons next more ih =>
    obtain ⟨child, isChild, inside⟩ := Option.bind_eq_some_iff.mp reached
    obtain ⟨inner, rfl⟩ := exists_of_follow?_cons (follow?_of_exactly? inside)
    have isInner : childFields fields segment = inner := by
      unfold childFields
      rw [show fields.get? segment = _ from isChild]
    rw [setPath, isInner, ih inside]
    exact Table.set_of_get? isChild

end

end DocQuery
