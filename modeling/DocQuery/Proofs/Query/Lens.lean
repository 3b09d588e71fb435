/-
**Setting and following paths as a lens.**

To set the value at the end of a path touches nothing but what is on the path, makes an object of
everything on the way, and forgets what was at the end before.

* `fieldsAt`: the fields of the object at the end of a path, and none if there is no object;
* `exactly?_setPath_front`: on the way there is the object that was there, with the rest of the
  path set in it;
* `exactly?_setPath_apart`: paths that part from the one that was set lead to what they led to;
* `setPath_setPath`: of two values set at the end of one path, the later one counts;
* `setPath_lens`: these laws together.
-/

import DocQuery.Proofs.Query.Path

namespace DocQuery

variable (fields : Fields) (segment : String) (value : Json)

/-! ### On the way -/

/-- The fields of the object at the end of a path of exact names, and none if it leads to no
object. -/
def fieldsAt (path : List String) : Fields :=
  match exactly? (.object fields) path with
  | some (.object inner) => inner
  | _ => []

theorem fieldsAt_childFields (path : List String) :
    fieldsAt (childFields fields segment) path = fieldsAt fields (segment :: path) := by
  cases path with
  | nil =>
    show childFields fields segment = fieldsAt fields [segment]
    rw [fieldsAt, exactly?_cons, childFields]
    cases fields.get? segment <;> rfl
  | cons next more => rw [fieldsAt, exactly?_childFields, fieldsAt]

/-- In front of the end of the path there is the object that was there, or else a new one, with
the rest of the path set in it. -/
theorem exactly?_setPath_front {fields : Fields} {segment : String} {more front : List String}
    {next : String} {rest : List String} (split : segment :: more = front ++ next :: rest) :
    exactly? (.object (setPath fields segment more value)) front =
      some (.object (setPath (fieldsAt fields front) next rest value)) := by
  induction front generalizing fields segment more with
  | nil =>
    cases split
    rfl
  | cons name front ih =>
    obtain ⟨isName, isMore⟩ := List.cons.inj split
    subst isName
    cases more with
    | nil => simp at isMore
    | cons first others => rw [exactly?_setPath_more, ih isMore, fieldsAt_childFields]

/-- The names keep their places, and a new one comes behind them. -/
theorem keys_setPath (more : List String) :
    (setPath fields segment more value).keys =
      if segment ∈ fields.keys then fields.keys else fields.keys ++ [segment] := by
  cases more <;> exact Table.keys_set ..

/-! ### Apart from the way -/

/-- Neither of two paths goes on where the other one ends. -/
def Apart (first second : List String) : Prop := ¬ first <+: second ∧ ¬ second <+: first

theorem apart_cons {first second : String} {more others : List String} :
    Apart (first :: more) (second :: others) ↔ first = second → Apart more others := by
  simp only [Apart, List.cons_prefix_cons, not_and, eq_comm (a := second)]
  exact imp_and.symm

/-- A path that parts from the one that was set leads to what it led to before, also where it parts
inside of an object that took the place of another value. -/
theorem exactly?_setPath_apart {fields : Fields} {segment : String} {more path : List String}
    (apart : Apart path (segment :: more)) :
    exactly? (.object (setPath fields segment more value)) path =
      exactly? (.object fields) path := by
  -- The paths have the same names up to the place where they part, and neither ends before it.
  induction path generalizing fields segment more with
  | nil => exact absurd List.nil_prefix apart.1
  | cons name rest ih =>
    by_cases same : name = segment
    · subst same
      have apart := apart_cons.mp apart rfl
      cases more with
      | nil => exact absurd List.nil_prefix apart.2
      | cons next more =>
        cases rest with
        | nil => exact absurd List.nil_prefix apart.1
        | cons _ _ => rw [exactly?_setPath_more, ih apart, exactly?_childFields]
    · exact exactly?_setPath_of_ne fields segment value same more rest

/-! ### The end -/

theorem childFields_set_self (inner : Fields) :
    childFields (fields.set segment (.object inner)) segment = inner := by
  rw [childFields, Table.get?_set_self]

/-- Of two values set at the end of one path, the later one counts. -/
theorem setPath_setPath (more : List String) (first second : Json) :
    setPath (setPath fields segment more first) segment more second =
      setPath fields segment more second := by
  induction more generalizing fields segment with
  | nil => exact Table.set_set fields segment first second
  | cons next more ih =>
    simp only [setPath]
    rw [childFields_set_self, ih, Table.set_set]

/-! ### The laws -/

/-- One object is another one in which a value was set at the end of a path. -/
structure IsSetAt (segments : List String) (value : Json) (before after : Fields) : Prop where
  reached : follow? (.object after) segments = some value
  apart : ∀ path, Apart path segments →
    exactly? (.object after) path = exactly? (.object before) path
  /-- On the way there are objects. The names that were in one keep their places, and only the next
  name of the path comes behind them if it is new. -/
  onTheWay : ∀ front next rest, segments = front ++ next :: rest →
    ∃ inner : Fields, exactly? (.object after) front = some (.object inner) ∧
      inner.keys = if next ∈ (fieldsAt before front).keys then (fieldsAt before front).keys
        else (fieldsAt before front).keys ++ [next]

theorem isSetAt_setPath (more : List String) :
    IsSetAt (segment :: more) value fields (setPath fields segment more value) where
  reached := follow?_of_exactly? (exactly?_setPath_self fields segment value more)
  apart _ := exactly?_setPath_apart value
  onTheWay _ next rest split :=
    ⟨_, exactly?_setPath_front value split, keys_setPath _ next value rest⟩

/-- **To set the value at the end of a path is a lens.** The path leads to the value that was set,
also where letter case does not count, and all paths that part from it lead to what they led to, or
to nothing as before. On the way there are objects, in which names keep their places. Of two values
set one after the other the later one counts, and to set the value that is there changes nothing. -/
theorem setPath_lens (more : List String) :
    IsSetAt (segment :: more) value fields (setPath fields segment more value) ∧
    (∀ first, setPath (setPath fields segment more first) segment more value =
      setPath fields segment more value) ∧
    (exactly? (.object fields) (segment :: more) = some value →
      setPath fields segment more value = fields) :=
  ⟨isSetAt_setPath fields segment value more,
    fun first => setPath_setPath fields segment more first value, setPath_of_exactly?⟩

/-- An object with a number, in the place of which a path of several names needs an object. -/
def flatFields : Fields := [("a", .int 1), ("b", .array [.int 2])]

/-- The number makes way for an object, in which there is nothing else. The list stays, and to set
it where it is changes nothing. -/
theorem setPath_lens_flat :
    (Apart ["a", "y"] ["a", "x"] ∧
      exactly? (.object (setPath flatFields "a" ["x"] .null)) ["a", "y"] = none) ∧
    (Apart ["b"] ["a", "x"] ∧
      exactly? (.object (setPath flatFields "a" ["x"] .null)) ["b"] = some (.array [.int 2])) ∧
    (exactly? (.object flatFields) ["b"] = some (.array [.int 2]) ∧
      setPath flatFields "b" [] (.array [.int 2]) = flatFields) := by
  have parts : Apart ["a", "y"] ["a", "x"] := ⟨by decide, by decide⟩
  have other : Apart ["b"] ["a", "x"] := ⟨by decide, by decide⟩
  obtain ⟨isSet, -, -⟩ := setPath_lens flatFields "a" .null ["x"]
  exact ⟨⟨parts, isSet.apart _ parts⟩, ⟨other, isSet.apart _ other⟩, rfl,
    (setPath_lens flatFields "b" (.array [.int 2]) []).2.2 rfl⟩

end DocQuery
