/-
**The exact values of numbers.**

* `Extended`: the rational numbers with a least and a greatest value added;
* `Binary64.value?`: the value of a double precision number. NaN has none;
* `Binary64.lt_iff`, `Binary64.same_iff`: numbers are less, or equal, exactly if their values are;
* `Binary64.compareWith_eq`, `Binary64.compareInt_eq`: numbers are in the order of their values, and
  so are an integer of any size and a double precision number;
* `Json.number?`: the value of a JSON number.
-/

import DocQuery.Json.Basic
import Mathlib.Algebra.Order.Field.Rat
import Mathlib.Algebra.Order.Ring.Cast
import Mathlib.Data.Int.Cast.Lemmas
import Mathlib.Data.Int.ConditionallyCompleteOrder
import Mathlib.Order.Compare
import Mathlib.Order.WithBot

namespace DocQuery

/-- A rational number or one of two infinite ones. -/
abbrev Extended : Type := WithBot (WithTop ℚ)

theorem rational_lt_top (value : ℚ) : ((value : WithTop ℚ) : Extended) < ⊤ :=
  WithBot.coe_lt_coe.mpr (WithTop.coe_lt_top value)

/-- The value of an integer. -/
def integerValue (n : Int) : Extended := ((n : ℚ) : WithTop ℚ)

theorem strictMono_integerValue : StrictMono integerValue := fun _ _ less =>
  WithBot.coe_lt_coe.mpr (WithTop.coe_lt_coe.mpr (Int.cast_lt.mpr less))

theorem integerValue_inj {m n : Int} : integerValue m = integerValue n ↔ m = n :=
  strictMono_integerValue.injective.eq_iff

/-- The order of integers is that of their values. -/
theorem compare_eq_cmp_integerValue (m n : Int) :
    compare m n = cmp (integerValue m) (integerValue n) := by
  rw [strictMono_integerValue.cmp_map_eq, cmp_eq_compare]

namespace Binary64

/-- The value of a number of units. -/
def unitsValue (units : Int) : Extended := ((units / power 2 1074 : ℚ) : WithTop ℚ)

/-- The value of a double precision number. -/
def value? : Binary64 → Option Extended
  | .nan => none
  | .infinite negative => some (if negative then ⊥ else ⊤)
  | .finite negative units _ => some (unitsValue (if negative then -units else units))

theorem strictMono_unitsValue : StrictMono unitsValue := fun _ _ less =>
  have positive : (0 : ℚ) < power 2 1074 := Nat.cast_pos.mpr (power_two_pos 1074)
  WithBot.coe_lt_coe.mpr (WithTop.coe_lt_coe.mpr
    (div_lt_div_of_pos_right (Int.cast_lt.mpr less) positive))

theorem unitsValue_mul (n : Int) : unitsValue (n * power 2 1074) = integerValue n := by
  have positive : ((power 2 1074 : Nat) : ℚ) ≠ 0 :=
    Nat.cast_ne_zero.mpr (Nat.ne_of_gt (power_two_pos 1074))
  rw [unitsValue, integerValue, Int.cast_mul, Int.cast_natCast, mul_div_cancel_right₀ _ positive]

theorem unitsValue_lt_top (units : Int) : unitsValue units < ⊤ := rational_lt_top _

theorem bot_lt_unitsValue (units : Int) : ⊥ < unitsValue units := WithBot.bot_lt_coe _

variable {x y : Binary64} {a b : Extended}

theorem exists_value? (defined : x ≠ .nan) : ∃ a, x.value? = some a := by
  cases x with
  | nan => exact (defined rfl).elim
  | infinite | finite => exact ⟨_, rfl⟩

/-- A number is less than another exactly if its value is. -/
theorem lt_iff (isFirst : x.value? = some a) (isSecond : y.value? = some b) :
    x.lt y ↔ a < b := by
  cases x with
  | nan => cases isFirst
  | infinite negative =>
    cases isFirst
    cases y with
    | nan => cases isSecond
    | infinite other => cases isSecond; cases negative <;> cases other <;> simp [lt]
    | finite =>
      cases isSecond
      cases negative with
      | false => exact iff_of_false Bool.false_ne_true not_top_lt
      | true => exact iff_of_true rfl (bot_lt_unitsValue _)
  | finite =>
    cases isFirst
    cases y with
    | nan => cases isSecond
    | infinite other =>
      cases isSecond
      cases other with
      | false => exact iff_of_true rfl (unitsValue_lt_top _)
      | true => exact iff_of_false Bool.false_ne_true not_lt_bot
    | finite => cases isSecond; rw [strictMono_unitsValue.lt_iff_lt, lt, decide_eq_true_iff]

/-- Two numbers are equal exactly if their values are. -/
theorem same_iff (isFirst : x.value? = some a) (isSecond : y.value? = some b) :
    x.same y ↔ a = b := by
  have forward := lt_iff isFirst isSecond
  have backward := lt_iff isSecond isFirst
  unfold same
  split
  · cases isFirst
  · cases isSecond
  · rw [Bool.and_eq_true_iff, Bool.not_eq_true', Bool.not_eq_true', ← Bool.not_eq_true,
      ← Bool.not_eq_true, forward, backward, not_lt, not_lt, and_comm, ← le_antisymm_iff]

/-- Numbers are in the order of their values. -/
theorem compareWith_eq (isFirst : x.value? = some a) (isSecond : y.value? = some b) :
    x.compareWith y = cmp a b := by
  have forward := lt_iff isFirst isSecond
  have backward := lt_iff isSecond isFirst
  simp only [compareWith, cmp, cmpUsing, forward, backward]

/-- An integer and a double precision number are in the order of their values. -/
theorem compareInt_eq (n : Int) (isValue : y.value? = some b) :
    compareInt n y = cmp (integerValue n) b := by
  cases y with
  | nan => cases isValue
  | infinite negative =>
    cases isValue
    cases negative with
    | false => exact ((cmp_eq_lt_iff _ _).mpr (rational_lt_top _)).symm
    | true => exact ((cmp_eq_gt_iff _ _).mpr (WithBot.bot_lt_coe _)).symm
  | finite negative units =>
    cases isValue
    rw [← unitsValue_mul, strictMono_unitsValue.cmp_map_eq, cmp_eq_compare, compareInt]

end Binary64

/-- The value of a JSON number. -/
def Json.number? : Json → Option Extended
  | .int n => some (integerValue n)
  | .float x => x.value?
  | _ => none

/-- What has a value is an integer or a double precision number. -/
theorem Json.number?_eq_some {number : Json} {x : Extended} (isValue : number.number? = some x) :
    (∃ n, number = .int n ∧ integerValue n = x) ∨
      ∃ y, number = .float y ∧ y.value? = some x := by
  cases number with
  | int n => exact .inl ⟨n, rfl, Option.some.inj isValue⟩
  | float y => exact .inr ⟨y, rfl, isValue⟩
  | null | bool | string | array | object => cases isValue

end DocQuery
