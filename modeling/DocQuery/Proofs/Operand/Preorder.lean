/-
**Where the order of operands is transitive.**

* `compareTexts` is an order of texts by code points: `TransCmp compareTexts`;
* `compareOperands_texts`: operands that are no numbers are in the order of their texts, truth
  values and texts among themselves included;
* `compareOperands_numbers`: numbers are in the order of their values;
* `IsUniform`: some operands have no number among them, or are only numbers and absent ones;
* `preorderOn_of_isUniform`: such operands are in a total preorder with the absent ones first.
-/

import DocQuery.Proofs.Number.Value
import DocQuery.Proofs.Operand.Compare
import Mathlib.Data.Set.Defs

namespace DocQuery

open Std (OrientedCmp TransCmp ReflCmp)

/-! ### Texts -/

theorem compareChars_eq_compareLex (left right : List Char) :
    compareChars left right =
      List.compareLex compare (left.map Char.toNat) (right.map Char.toNat) := by
  induction left generalizing right with
  | nil => cases right <;> rfl
  | cons c left ih =>
    cases right with
    | nil => rfl
    | cons d right =>
      rw [compareChars, ih, List.map_cons, List.map_cons, List.compareLex_cons_cons]

instance : TransCmp compareTexts := ⟨fun {first second third} less less' => by
  unfold compareTexts at less less' ⊢
  rw [compareChars_eq_compareLex] at less less' ⊢
  exact TransCmp.isLE_trans less less'⟩

namespace Operand

/-- An operand is a JSON value or missing. -/
inductive IsPlain : Operand → Prop
  | missing : IsPlain .missing
  | json (value : Json) : IsPlain (.json value)

/-- The value of an operand that is a number. -/
def number? : Operand → Option Extended
  | .json value => value.number?
  | _ => none

/-- What has a value is a JSON number. -/
theorem number?_eq_some {operand : Operand} {x : Extended} (isNumber : operand.number? = some x) :
    ∃ value, operand = .json value ∧ value.number? = some x := by
  cases operand with
  | json value => exact ⟨value, rfl, isNumber⟩
  | missing | instant | range => cases isNumber

end Operand

theorem compareNumbers?_of_isNumber {left right : Operand} (notNumber : left.isNumber = false) :
    compareNumbers? left right = none := by
  unfold compareNumbers?
  split <;> first | cases notNumber | rfl

/-- The order of truth values is that of the words for them. -/
theorem compare_toNat (b c : Bool) :
    compare b.toNat c.toNat =
      compareTexts (if b then "true" else "false") (if c then "true" else "false") := by
  cases b <;> cases c <;> rfl

/-- Operands that are neither numbers nor absent are in the order of their texts. -/
theorem compareOperands_texts {left right : Operand} (plain : left.IsPlain)
    (notNumber : left.isNumber = false) (present : left.isAbsent = false)
    (present' : right.isAbsent = false) :
    compareOperands left right =
      compareTexts (left.toText?.getD "") (right.toText?.getD "") := by
  simp only [compareOperands, present, present', compareNumbers?_of_isNumber notNumber]
  split
  · rfl
  · exact compare_toNat _ _
  · cases plain
  · rfl

/-- **Numbers are in the order of their values.** -/
theorem compareOperands_numbers {left right : Operand} {x y : Extended}
    (isFirst : left.number? = some x) (isSecond : right.number? = some y) :
    compareOperands left right = cmp x y := by
  obtain ⟨first, rfl, isFirst⟩ := Operand.number?_eq_some isFirst
  obtain ⟨second, rfl, isSecond⟩ := Operand.number?_eq_some isSecond
  obtain ⟨m, rfl, rfl⟩ | ⟨x', rfl, isFirst⟩ := Json.number?_eq_some isFirst <;>
    obtain ⟨n, rfl, rfl⟩ | ⟨y', rfl, isSecond⟩ := Json.number?_eq_some isSecond
  · exact compare_eq_cmp_integerValue m n
  · exact Binary64.compareInt_eq m isSecond
  · exact (congrArg Ordering.swap (Binary64.compareInt_eq n isFirst)).trans (cmp_swap ..)
  · exact Binary64.compareWith_eq isFirst isSecond

/-! ### Uniform operands -/

/-- Operands among which there is no number, or only numbers, of which none is NaN, and absent
ones. -/
def IsUniform (values : Set Operand) : Prop :=
  (∀ value ∈ values, value.IsPlain ∧ value.isNumber = false) ∨
    ∀ value ∈ values, value.isAbsent ∨ value.number?.isSome

/-- Operands are in a total preorder, and those that are absent are the least ones and equal to each
other. -/
structure PreorderOn (values : Set Operand) : Prop where
  transitive : ∀ first ∈ values, ∀ second ∈ values, ∀ third ∈ values,
    (compareOperands first second).isLE → (compareOperands second third).isLE →
      (compareOperands first third).isLE
  total : ∀ left ∈ values, ∀ right ∈ values,
    (compareOperands left right).isLE ∨ (compareOperands right left).isLE
  least : ∀ left ∈ values, left.isAbsent → ∀ right ∈ values,
    compareOperands left right = if right.isAbsent then .eq else .lt

theorem compareOperands_absent {left right : Operand} (absent : left.isAbsent) :
    compareOperands left right = if right.isAbsent then .eq else .lt := by
  simp only [compareOperands, absent]
  cases right.isAbsent <;> rfl

theorem compareOperands_before_absent {left right : Operand} (present : left.isAbsent = false)
    (absent : right.isAbsent) : compareOperands left right = .gt := by
  simp only [compareOperands, present, absent]

/-- The order is transitive if it is so on the operands that are not absent. -/
theorem transitive_of_present {first second third : Operand}
    (present : first.isAbsent = false → second.isAbsent = false → third.isAbsent = false →
      (compareOperands first second).isLE → (compareOperands second third).isLE →
        (compareOperands first third).isLE)
    (less : (compareOperands first second).isLE) (less' : (compareOperands second third).isLE) :
    (compareOperands first third).isLE := by
  cases isFirst : first.isAbsent with
  | true =>
    rw [compareOperands_absent isFirst]
    split <;> rfl
  | false =>
    cases isSecond : second.isAbsent with
    | true => rw [compareOperands_before_absent isFirst isSecond] at less; cases less
    | false =>
      cases isThird : third.isAbsent with
      | true => rw [compareOperands_before_absent isSecond isThird] at less'; cases less'
      | false => exact present isFirst isSecond isThird less less'

theorem exists_number?_of_present {value : Operand}
    (numeric : value.isAbsent ∨ value.number?.isSome) (present : value.isAbsent = false) :
    ∃ x, value.number? = some x :=
  Option.isSome_iff_exists.mp (numeric.resolve_left (Bool.eq_false_iff.mp present))

/-- **Uniform operands are in a total preorder.** -/
theorem preorderOn_of_isUniform {values : Set Operand} (uniform : IsUniform values) :
    PreorderOn values := by
  refine ⟨?_, fun left _ right _ => ?_, fun left _ absent right _ => compareOperands_absent absent⟩
  · intro first inFirst second inSecond third inThird less less'
    refine transitive_of_present (fun isFirst isSecond isThird less less' => ?_) less less'
    rcases uniform with texts | numbers
    · obtain ⟨plain, notNumber⟩ := texts first inFirst
      obtain ⟨plain', notNumber'⟩ := texts second inSecond
      rw [compareOperands_texts plain notNumber isFirst isSecond] at less
      rw [compareOperands_texts plain' notNumber' isSecond isThird] at less'
      rw [compareOperands_texts plain notNumber isFirst isThird]
      exact TransCmp.isLE_trans less less'
    · obtain ⟨x, isX⟩ := exists_number?_of_present (numbers first inFirst) isFirst
      obtain ⟨y, isY⟩ := exists_number?_of_present (numbers second inSecond) isSecond
      obtain ⟨z, isZ⟩ := exists_number?_of_present (numbers third inThird) isThird
      rw [compareOperands_numbers isX isY, cmp_eq_compare] at less
      rw [compareOperands_numbers isY isZ, cmp_eq_compare] at less'
      rw [compareOperands_numbers isX isZ, cmp_eq_compare]
      exact TransCmp.isLE_trans less less'
  · rw [@OrientedCmp.eq_swap _ compareOperands _ left right]
    cases compareOperands right left with
    | lt | eq => exact .inr rfl
    | gt => exact .inl rfl

end DocQuery
