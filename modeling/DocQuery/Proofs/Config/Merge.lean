/-
**Merging settings, path by path.**

* `get?_mergeFields`, `keys_mergeFields`: what a merged object holds under a name, and in which
  order;
* `Silent`: an overriding value says nothing about a path;
* `exactly?_mergeValue_of_some`, `exactly?_mergeValue_of_silent`, `exactly?_mergeValue_of_hidden`:
  at every path a merged value holds what is merged of both sides there, unless the overriding side
  has another value than an object on the way;
* `exactly?_mergeFields_iff`: a value that is no object comes from the overriding side if this has
  one, and otherwise from the other side if the overriding one is silent.
-/

import DocQuery.Config.Merge
import DocQuery.Proofs.Query.Path
import Mathlib.Logic.Basic

namespace DocQuery

/-! ### Objects and other values -/

namespace Json

/-- A value is no object. -/
def IsLeaf (value : Json) : Prop := ∀ fields, value ≠ .object fields

/-- No object in a value has two fields of one name, but for objects inside of lists. -/
inductive NamesDiffer : Json → Prop
  | object {fields : Fields} (distinct : fields.Distinct)
    (each : ∀ name value, fields.get? name = some value → NamesDiffer value) :
    NamesDiffer (.object fields)
  | leaf {value : Json} (isLeaf : value.IsLeaf) : NamesDiffer value

theorem isLeaf_or_object (value : Json) :
    value.IsLeaf ∨ ∃ fields : Fields, value = .object fields := by
  cases value with
  | object fields => exact .inr ⟨fields, rfl⟩
  | _ => exact .inl nofun

theorem IsLeaf.field? {value : Json} (leaf : value.IsLeaf) (name : String) :
    value.field? name = none := by
  cases value with
  | object fields => exact absurd rfl (leaf fields)
  | _ => rfl

theorem IsLeaf.exactly?_cons {value : Json} (leaf : value.IsLeaf) (name : String)
    (more : List String) : exactly? value (name :: more) = none := by
  rw [exactly?, leaf.field?]
  rfl

theorem NamesDiffer.fields {fields : Fields} (differ : NamesDiffer (.object fields)) :
    fields.Distinct ∧ ∀ name value, fields.get? name = some value → value.NamesDiffer := by
  cases differ with
  | object distinct each => exact ⟨distinct, each⟩
  | leaf isLeaf => exact absurd rfl (isLeaf fields)

end Json

/-! ### Merged fields -/

theorem mergeValue_leaf {value : Json} (leaf : value.IsLeaf) (base : Option Json) :
    mergeValue base value = value := by
  cases value with
  | object fields => exact absurd rfl (leaf fields)
  | _ => rw [mergeValue]; simp

/-- A value stands alone where the other side has no object. -/
theorem mergeValue_alone {base : Option Json} (other : ∀ fields, base ≠ some (.object fields))
    (value : Json) : mergeValue base value = value := by
  cases value with
  | object fields =>
    rw [mergeValue]
    exact fun fields' => other fields'
  | _ => rw [mergeValue]; simp

theorem mergeValue_objects (fields others : Fields) :
    mergeValue (some (.object fields)) (.object others) = .object (mergeFields fields others) := by
  rw [mergeValue]

/-- With an overriding object the merged value is an object. -/
theorem not_isLeaf_mergeValue (base : Option Json) (fields : Fields) :
    ¬ (mergeValue base (.object fields)).IsLeaf := by
  by_cases isObject : ∃ others : Fields, base = some (.object others)
  · obtain ⟨others, rfl⟩ := isObject
    rw [mergeValue_objects]
    exact fun leaf => leaf _ rfl
  · rw [mergeValue_alone fun others same => isObject ⟨others, same⟩]
    exact fun leaf => leaf fields rfl

/-- What stands under a name is what is merged of both sides, or what stands on the one side. -/
theorem get?_mergeFields {above : Fields} (distinct : above.Distinct) (base : Fields)
    (name : String) : (mergeFields base above).get? name =
      ((above.get? name).map (mergeValue (base.get? name))).or (base.get? name) := by
  induction above generalizing base with
  | nil => rw [mergeFields]; rfl
  | cons entry more ih =>
    obtain ⟨first, value⟩ := entry
    obtain ⟨alone, distinct⟩ := List.nodup_cons.mp distinct
    rw [mergeFields, ih distinct, Table.get?]
    by_cases same : first = name
    · subst same
      rw [if_pos rfl, Table.get?_eq_none.mpr alone, Table.get?_set_self]
      rfl
    · rw [if_neg same, Table.get?_set_of_ne _ _ (Ne.symm same)]

/-- The names stand in the order of the one side, with the new ones of the other behind them. -/
theorem keys_mergeFields {above : Fields} (distinct : above.Distinct) (base : Fields) :
    (mergeFields base above).keys = base.keys ++ above.keys.filter (· ∉ base.keys) := by
  induction above generalizing base with
  | nil => rw [mergeFields]; simp [Table.keys]
  | cons entry more ih =>
    obtain ⟨first, value⟩ := entry
    obtain ⟨alone, distinct⟩ := List.nodup_cons.mp distinct
    rw [mergeFields, ih distinct, Table.keys_set]
    show _ = base.keys ++ (first :: Table.keys more).filter _
    by_cases old : first ∈ base.keys
    · simp [old]
    · have others : (Table.keys more).filter (· ∉ base.keys ++ [first]) =
          (Table.keys more).filter (· ∉ base.keys) := by
        refine List.filter_congr fun name member => ?_
        have other : name ≠ first := by
          rintro rfl
          exact alone member
        simp [other]
      simp only [old, if_false, others]
      simp [old]

/-- A merged value has the merged fields of both sides. -/
theorem field?_mergeValue {above : Fields} (distinct : above.Distinct) (base : Option Json)
    (name : String) : (mergeValue base (.object above)).field? name =
      ((above.get? name).map (mergeValue (base.bind (·.field? name)))).or
        (base.bind (·.field? name)) := by
  by_cases isObject : ∃ fields : Fields, base = some (.object fields)
  · obtain ⟨fields, rfl⟩ := isObject
    rw [mergeValue_objects]
    exact get?_mergeFields distinct fields name
  · have none : base.bind (·.field? name) = none := by
      rcases base with _ | value
      · rfl
      · obtain leaf | ⟨fields, rfl⟩ := value.isLeaf_or_object
        · exact leaf.field? name
        · exact absurd ⟨fields, rfl⟩ isObject
    rw [mergeValue_alone fun fields same => isObject ⟨fields, same⟩, none, Option.or_none]
    show above.get? name = _
    cases above.get? name with
    | none => rfl
    | some value =>
      rw [Option.map_some, mergeValue_alone]
      rintro _ ⟨⟩

/-! ### Paths -/

/-- A value says nothing about a path: it has nothing at its end, and on the way there it has
objects only. -/
def Silent (value : Json) (path : List String) : Prop :=
  exactly? value path = none ∧ ∀ front rest found, path = front ++ rest → rest ≠ [] →
    exactly? value front = some found → ¬ found.IsLeaf

/-- Another value than an object is silent about nothing. -/
theorem not_silent_of_isLeaf {value : Json} (leaf : value.IsLeaf) (path : List String) :
    ¬ Silent value path := by
  rintro ⟨absent, way⟩
  rcases path with _ | ⟨name, more⟩
  · cases absent
  · exact way [] (name :: more) value rfl (List.cons_ne_nil _ _) rfl leaf

theorem silent_cons {fields : Fields} {name : String} {more : List String} :
    Silent (.object fields) (name :: more) ↔
      ∀ child, fields.get? name = some child → Silent child more := by
  constructor
  · rintro ⟨absent, way⟩ child isChild
    rw [exactly?_cons, isChild] at absent
    refine ⟨absent, fun front rest found split left reached => ?_⟩
    refine way (name :: front) rest found (congrArg (name :: ·) split) left ?_
    rw [exactly?_cons, isChild]
    exact reached
  · intro each
    constructor
    · rw [exactly?_cons]
      cases isChild : fields.get? name with
      | none => rfl
      | some child => exact (each child isChild).1
    · intro front rest found split left reached
      rcases front with _ | ⟨first, front⟩
      · cases reached
        exact fun leaf => leaf fields rfl
      · obtain ⟨rfl, behind⟩ := List.cons.inj split
        obtain ⟨child, isChild, reached⟩ := Option.bind_eq_some_iff.mp reached
        exact (each child isChild).2 front rest found behind left reached

/-- What a path leads to in a value that may be missing. -/
theorem bind_exactly?_cons (base : Option Json) (name : String) (more : List String) :
    base.bind (exactly? · (name :: more)) =
      (base.bind (·.field? name)).bind (exactly? · more) := by
  rw [Option.bind_assoc]
  rfl

/-- Where the overriding side has a value, the merged value has what is merged of both sides. -/
theorem exactly?_mergeValue_of_some {above value : Json} (differ : above.NamesDiffer)
    {path : List String} (reached : exactly? above path = some value) (base : Option Json) :
    exactly? (mergeValue base above) path =
      some (mergeValue (base.bind (exactly? · path)) value) := by
  induction path generalizing base above with
  | nil =>
    cases reached
    cases base <;> rfl
  | cons name more ih =>
    obtain leaf | ⟨fields, rfl⟩ := above.isLeaf_or_object
    · rw [leaf.exactly?_cons] at reached
      cases reached
    · obtain ⟨distinct, each⟩ := differ.fields
      obtain ⟨child, isChild, reached⟩ := Option.bind_eq_some_iff.mp reached
      have isChild : fields.get? name = some child := isChild
      rw [exactly?, field?_mergeValue distinct, isChild, bind_exactly?_cons]
      exact ih (each name child isChild) reached _

/-- Where the overriding side is silent, the merged value has what the other side has. -/
theorem exactly?_mergeValue_of_silent {above : Json} (differ : above.NamesDiffer)
    {path : List String} (silent : Silent above path) (base : Option Json) :
    exactly? (mergeValue base above) path = base.bind (exactly? · path) := by
  induction path generalizing base above with
  | nil => cases silent.1
  | cons name more ih =>
    obtain leaf | ⟨fields, rfl⟩ := above.isLeaf_or_object
    · exact absurd silent (not_silent_of_isLeaf leaf _)
    · obtain ⟨distinct, each⟩ := differ.fields
      rw [exactly?, field?_mergeValue distinct, bind_exactly?_cons]
      cases isChild : fields.get? name with
      | none => rfl
      | some child => exact ih (each name child isChild) (silent_cons.mp silent child isChild) _

/-- Where the overriding side has nothing but is not silent, the merged value has nothing. -/
theorem exactly?_mergeValue_of_hidden {above : Json} (differ : above.NamesDiffer)
    {path : List String} (absent : exactly? above path = none) (hidden : ¬ Silent above path)
    (base : Option Json) : exactly? (mergeValue base above) path = none := by
  induction path generalizing base above with
  | nil => cases absent
  | cons name more ih =>
    obtain leaf | ⟨fields, rfl⟩ := above.isLeaf_or_object
    · rw [mergeValue_leaf leaf, leaf.exactly?_cons]
    · obtain ⟨distinct, each⟩ := differ.fields
      rw [silent_cons, not_forall] at hidden
      obtain ⟨child, isHidden⟩ := hidden
      obtain ⟨isChild, hidden⟩ := Classical.not_imp.mp isHidden
      rw [exactly?_cons, isChild] at absent
      rw [exactly?, field?_mergeValue distinct, isChild]
      exact ih (each name child isChild) absent hidden _

/-- **A value that is no object comes from the overriding side**, if this has one at the path, and
otherwise from the other side, if the overriding one is silent. -/
theorem exactly?_mergeFields_iff {base above : Fields} (differ : (Json.object above).NamesDiffer)
    {path : List String} {value : Json} (leaf : value.IsLeaf) :
    exactly? (.object (mergeFields base above)) path = some value ↔
      exactly? (.object above) path = some value ∨
        exactly? (.object base) path = some value ∧ Silent (.object above) path := by
  rw [← mergeValue_objects]
  cases reached : exactly? (.object above) path with
  | some found =>
    have loud : ¬ Silent (.object above) path := fun silent => by
      rw [silent.1] at reached
      cases reached
    rw [exactly?_mergeValue_of_some differ reached]
    obtain isLeaf | ⟨fields, rfl⟩ := found.isLeaf_or_object
    · rw [mergeValue_leaf isLeaf]
      exact ⟨.inl, fun holds => holds.resolve_right fun other => loud other.2⟩
    · constructor
      · intro same
        cases same
        exact absurd leaf (not_isLeaf_mergeValue _ fields)
      · rintro (⟨⟨⟩⟩ | other)
        · exact absurd rfl (leaf fields)
        · exact absurd other.2 loud
  | none =>
    by_cases silent : Silent (.object above) path
    · rw [exactly?_mergeValue_of_silent differ silent]
      exact ⟨fun found => .inr ⟨found, silent⟩, fun holds => (holds.resolve_left nofun).1⟩
    · rw [exactly?_mergeValue_of_hidden differ reached silent]
      exact ⟨nofun, fun holds => absurd (holds.resolve_left nofun).2 silent⟩

theorem Json.NamesDiffer.exactly? {value found : Json} (differ : value.NamesDiffer)
    {path : List String} (reached : DocQuery.exactly? value path = some found) :
    found.NamesDiffer := by
  induction path generalizing value with
  | nil =>
    cases reached
    exact differ
  | cons name more ih =>
    obtain leaf | ⟨fields, rfl⟩ := value.isLeaf_or_object
    · rw [leaf.exactly?_cons] at reached
      cases reached
    · obtain ⟨child, isChild, reached⟩ := Option.bind_eq_some_iff.mp reached
      exact ih (differ.fields.2 name child isChild) reached

/-- **Where both sides have an object the merged value has one**, with the names of the one side in
their order and the new names of the overriding side behind them. -/
theorem exactly?_mergeFields_objects {base above : Fields}
    (differ : (Json.object above).NamesDiffer) {path : List String} {fields others : Fields}
    (isBase : exactly? (.object base) path = some (.object fields))
    (isOver : exactly? (.object above) path = some (.object others)) :
    ∃ merged : Fields, exactly? (.object (mergeFields base above)) path = some (.object merged) ∧
      merged.keys = fields.keys ++ others.keys.filter (· ∉ fields.keys) := by
  have reached := exactly?_mergeValue_of_some differ isOver (some (.object base))
  rw [mergeValue_objects, Option.bind_some, isBase, mergeValue_objects] at reached
  exact ⟨_, reached, keys_mergeFields (differ.exactly? isOver).fields.1 fields⟩

end DocQuery
