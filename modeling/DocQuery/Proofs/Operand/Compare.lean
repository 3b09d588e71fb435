/-
**The order of operands is oriented.**

* `compareOperands` swaps its outcome with its operands, whatever they are. Where one of them is not
  a number, both count as texts, and it is no order: it need not be transitive.
-/

import DocQuery.Operand.Compare

namespace DocQuery

open Std (OrientedCmp)

theorem compareChars_swap (left right : List Char) :
    compareChars left right = (compareChars right left).swap := by
  induction left generalizing right with
  | nil => cases right <;> rfl
  | cons c left ih =>
    cases right with
    | nil => rfl
    | cons d right =>
      rw [compareChars, compareChars, Ordering.swap_then, ← ih, ← Nat.compare_swap]

instance : OrientedCmp compareTexts := ⟨compareChars_swap _ _⟩

namespace Binary64

theorem lt_asymm {x y : Binary64} (less : x.lt y) : y.lt x = false := by
  cases x with
  | nan => cases less
  | infinite negative =>
    cases y with
    | nan => cases less
    | infinite other => cases negative <;> cases other <;> first | rfl | cases less
    | finite => cases negative <;> first | rfl | cases less
  | finite negative units representable =>
    cases y with
    | nan => cases less
    | infinite other => cases other <;> first | rfl | cases less
    | finite other units' representable' =>
      simp only [lt, decide_eq_true_eq, decide_eq_false_iff_not] at less ⊢
      omega

instance : OrientedCmp compareWith := by
  refine ⟨fun {x y} => ?_⟩
  unfold compareWith
  cases forward : x.lt y with
  | true =>
    rw [lt_asymm forward]
    rfl
  | false => cases backward : y.lt x <;> rfl

end Binary64

theorem compareNumbers?_swap (left right : Operand) :
    compareNumbers? left right = (compareNumbers? right left).map Ordering.swap := by
  fun_cases compareNumbers? left right with
  | case1 m n => exact congrArg some OrientedCmp.eq_swap
  | case2 m y => exact congrArg some Ordering.swap_swap.symm
  | case3 x n => rfl
  | case4 x y => exact congrArg some OrientedCmp.eq_swap
  | case5 left right noIntInt noIntFloat noFloatInt noFloatFloat =>
    rw [compareNumbers?.eq_5 right left (fun m n isRight isLeft => noIntInt n m isLeft isRight)
      (fun m y isRight isLeft => noFloatInt y m isLeft isRight)
      (fun x n isRight isLeft => noIntFloat n x isLeft isRight)
      fun x y isRight isLeft => noFloatFloat y x isLeft isRight]
    rfl

/-- **Operands are compared the same way from both sides.** -/
instance : OrientedCmp compareOperands := by
  refine ⟨fun {left right} => ?_⟩
  unfold compareOperands
  cases left.isAbsent <;> cases right.isAbsent
  case false.false =>
    rw [compareNumbers?_swap left right]
    cases compareNumbers? right left with
    | some order => rfl
    | none =>
      dsimp only [Option.map_none]
      split
      · exact OrientedCmp.eq_swap
      · exact OrientedCmp.eq_swap
      · exact OrientedCmp.eq_swap
      · next noTexts noTruths noInstants =>
        split
        · exact (noTexts _ _ rfl rfl).elim
        · exact (noTruths _ _ rfl rfl).elim
        · exact (noInstants _ _ rfl rfl).elim
        · exact OrientedCmp.eq_swap
  all_goals rfl

end DocQuery
