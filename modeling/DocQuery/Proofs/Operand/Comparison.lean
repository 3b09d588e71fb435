/-
**How the comparisons of two operands go together.**

* `Comparison.Holds`, `Comparison.IsDecided`: a comparison holds, or has a verdict at all;
* `Operand.IsUnreadable`: a text from which no number is read although it has the form of one;
* `Comparison.ordering_cases`: two operands are in opposite orders from both sides, unless one of
  them is unreadable;
* `Comparison.equal_comm`: equality is symmetric, failures included;
* `Comparison.coherent`: the six comparisons of two JSON values, under the order of operands and any
  tolerance, and those of missing operands.
-/

import DocQuery.Proofs.Operand.Compare
import DocQuery.Proofs.Operand.Equality
import DocQuery.Proofs.Operand.Failure

namespace DocQuery

open Std (OrientedCmp)

/-! ### Numbers within a tolerance -/

namespace Binary64

theorem same_comm (x y : Binary64) : x.same y = y.same x := by
  unfold same
  split
  · cases y <;> rfl
  · cases x <;> rfl
  · exact Bool.and_comm ..

theorem distance_comm (x y : Binary64) : x.distance y = y.distance x := by
  cases x with
  | nan => cases y <;> rfl
  | infinite negative =>
    cases y with
    | nan | finite => rfl
    | infinite other => cases negative <;> cases other <;> rfl
  | finite negative units =>
    cases y with
    | nan | infinite => rfl
    | finite other units' =>
      simp only [distance]
      rw [← Int.natAbs_neg, Int.neg_sub]

theorem same_self {x : Binary64} (defined : x ≠ .nan) : x.same x := by
  obtain ⟨a, isValue⟩ := exists_value? defined
  exact (same_iff isValue isValue).mpr rfl

theorem ofInt_ne_nan (n : Int) : ofInt n ≠ .nan := by
  unfold ofInt ofRatio ofUnits
  split <;> rintro ⟨⟩

end Binary64

/-- A text from which no number is read although it has the form of one. -/
def Operand.IsUnreadable (operand : Operand) : Prop :=
  ∃ text, operand = .json (.string text) ∧ IsSeparated text

theorem exists_toNumber? {operand : Operand} (readable : ¬ operand.IsUnreadable) :
    ∃ number, operand.toNumber? = .ok number := by
  cases isNumber : operand.toNumber? with
  | ok number => exact ⟨number, rfl⟩
  | error failure =>
    obtain ⟨text, isText, separated, -⟩ := toNumber?_eq_error.mp isNumber
    exact (readable ⟨text, isText, separated⟩).elim

/-- What begins with two numbers fails if one of them cannot be read. -/
theorem toNumber?_bind_fails {α : Type} {left right : Operand}
    (unreadable : left.IsUnreadable ∨ right.IsUnreadable)
    (further : Option Binary64 → Option Binary64 → Except EvaluationError α) :
    ∃ failure, (left.toNumber? >>= fun x => right.toNumber? >>= further x) = .error failure := by
  have fails {operand : Operand} :
      operand.IsUnreadable → ∃ failure, operand.toNumber? = .error failure :=
    fun ⟨text, isText, separated⟩ => ⟨_, toNumber?_eq_error.mpr ⟨text, isText, separated, rfl⟩⟩
  cases isFirst : left.toNumber? with
  | error failure => exact ⟨failure, rfl⟩
  | ok x =>
    have readable : ¬ left.IsUnreadable := fun found => by
      obtain ⟨_, refused⟩ := fails found
      cases isFirst.symm.trans refused
    obtain ⟨failure, isSecond⟩ := fails (unreadable.resolve_left readable)
    rw [isSecond]
    exact ⟨failure, rfl⟩

namespace Comparison

variable (settings : Comparison)

theorem equalNumbers_comm (x y : Binary64) :
    settings.equalNumbers x y = settings.equalNumbers y x := by
  rw [equalNumbers, equalNumbers, Binary64.same_comm, Binary64.distance_comm]

/-! ### Order -/

/-- Two values are in opposite orders from both sides, unless one of them is unreadable. -/
theorem ordering_cases [OrientedCmp settings.order] (left right : Json) :
    (¬ (Operand.json left).IsUnreadable ∧ ¬ (Operand.json right).IsUnreadable ∧
      ∃ order, settings.ordering (.json left) (.json right) = .ok (some order) ∧
        settings.ordering (.json right) (.json left) = .ok (some order.swap)) ∨
    (((Operand.json left).IsUnreadable ∨ (Operand.json right).IsUnreadable) ∧
      (∃ failure, settings.ordering (.json left) (.json right) = .error failure) ∧
      ∃ failure, settings.ordering (.json right) (.json left) = .error failure) := by
  unfold ordering
  by_cases unreadable : (Operand.json left).IsUnreadable ∨ (Operand.json right).IsUnreadable
  · exact .inr ⟨unreadable, toNumber?_bind_fails unreadable _,
      toNumber?_bind_fails unreadable.symm _⟩
  obtain ⟨readable, readable'⟩ := not_or.mp unreadable
  obtain ⟨x, isFirst⟩ := exists_toNumber? readable
  obtain ⟨y, isSecond⟩ := exists_toNumber? readable'
  have swapped := @OrientedCmp.eq_swap _ settings.order _ (.json right) (.json left)
  rw [isFirst, isSecond]
  refine .inl ⟨readable, readable', ?_⟩
  cases x with
  | none => cases y <;> exact ⟨_, rfl, congrArg (Except.ok ∘ some) swapped⟩
  | some x =>
    cases y with
    | none => exact ⟨_, rfl, congrArg (Except.ok ∘ some) swapped⟩
    | some y => exact ⟨_, rfl, congrArg (Except.ok ∘ some) OrientedCmp.eq_swap⟩

/-! ### Equality -/

/-- Two values are texts. -/
def AreTexts (left right : Json) : Prop := ∃ s t, left = .string s ∧ right = .string t

variable {left right : Json}

theorem areTexts_iff :
    AreTexts left right ↔ (Operand.json left).isString ∧ (Operand.json right).isString := by
  constructor
  · rintro ⟨s, t, rfl, rfl⟩
    exact ⟨rfl, rfl⟩
  · rintro ⟨isFirst, isSecond⟩
    cases left with
    | string s =>
      cases right with
      | string t => exact ⟨s, t, rfl, rfl⟩
      | _ => cases isSecond
    | _ => cases isFirst

theorem equalOthers_comm (proper : left.IsProper) (proper' : right.IsProper) :
    equalOthers (.json left) (.json right) = equalOthers (.json right) (.json left) := by
  have same : left.same right = right.same left := by
    rw [Bool.eq_iff_iff, Json.same_iff left right proper proper',
      Json.same_iff right left proper' proper]
    exact ⟨.symm, .symm⟩
  unfold equalOthers
  cases (Operand.json left).toBool? <;> cases (Operand.json right).toBool? <;>
    simp only [Operand.same, same, Bool.beq_comm]

/-- What are not two texts is compared as numbers, if both of them are, or else as they are. -/
theorem equal_of_not_areTexts (mixed : ¬ AreTexts left right) :
    settings.equal (.json left) (.json right) = (do
      match ← (Operand.json left).toNumber?, ← (Operand.json right).toNumber? with
      | some x, some y => return settings.equalNumbers x y
      | _, _ => return equalOthers (.json left) (.json right)) := by
  unfold equal
  split
  · next isMissing => cases isMissing
  · next isMissing _ => cases isMissing
  · next s t isFirst isSecond =>
    exact (mixed ⟨s, t, Operand.json.inj isFirst, Operand.json.inj isSecond⟩).elim
  · rfl

/-- Equality is symmetric. It has no verdict only if one of the values is unreadable and they are
not two texts. -/
theorem equal_comm (proper : left.IsProper) (proper' : right.IsProper) :
    ((AreTexts left right ∨
        ¬ (Operand.json left).IsUnreadable ∧ ¬ (Operand.json right).IsUnreadable) ∧
      ∃ verdict, settings.equal (.json left) (.json right) = .ok verdict ∧
        settings.equal (.json right) (.json left) = .ok verdict) ∨
    (¬ AreTexts left right ∧
      ((Operand.json left).IsUnreadable ∨ (Operand.json right).IsUnreadable) ∧
      (∃ failure, settings.equal (.json left) (.json right) = .error failure) ∧
      ∃ failure, settings.equal (.json right) (.json left) = .error failure) := by
  by_cases texts : AreTexts left right
  · refine .inl ⟨.inl texts, ?_⟩
    obtain ⟨s, t, rfl, rfl⟩ := texts
    exact ⟨s == t, rfl, congrArg Except.ok Bool.beq_comm⟩
  have texts' : ¬ AreTexts right left := fun ⟨s, t, isFirst, isSecond⟩ =>
    texts ⟨t, s, isSecond, isFirst⟩
  rw [equal_of_not_areTexts settings texts, equal_of_not_areTexts settings texts']
  by_cases unreadable : (Operand.json left).IsUnreadable ∨ (Operand.json right).IsUnreadable
  · exact .inr ⟨texts, unreadable, toNumber?_bind_fails unreadable _,
      toNumber?_bind_fails unreadable.symm _⟩
  obtain ⟨readable, readable'⟩ := not_or.mp unreadable
  obtain ⟨x, isFirst⟩ := exists_toNumber? readable
  obtain ⟨y, isSecond⟩ := exists_toNumber? readable'
  have others := equalOthers_comm proper' proper
  rw [isFirst, isSecond]
  refine .inl ⟨.inr ⟨readable, readable'⟩, ?_⟩
  cases x with
  | none => cases y <;> exact ⟨_, rfl, congrArg Except.ok others⟩
  | some x =>
    cases y with
    | none => exact ⟨_, rfl, congrArg Except.ok others⟩
    | some y => exact ⟨_, rfl, congrArg Except.ok (settings.equalNumbers_comm y x)⟩

/-- Every value is equal to itself. -/
theorem equal_self (proper : left.IsProper) :
    settings.equal (.json left) (.json left) = .ok true := by
  have numbers {x : Binary64} (defined : x ≠ .nan) : settings.equalNumbers x x = true :=
    Bool.or_eq_true_iff.mpr (.inl (Binary64.same_self defined))
  have others : equalOthers (.json left) (.json left) = true := by
    have same := (Json.same_iff left left proper proper).mpr proper.sameBy_self
    unfold equalOthers
    cases (Operand.json left).toBool? <;> simp [Operand.same, same]
  cases proper with
  | string text => exact congrArg Except.ok (beq_self_eq_true text)
  | int number => exact congrArg Except.ok (numbers (Binary64.ofInt_ne_nan number))
  | float defined => exact congrArg Except.ok (numbers defined)
  | null | bool | array | object => exact congrArg Except.ok others

/-! ### All six comparisons -/

/-- A comparison of two operands holds. -/
def Holds (operator : Operator) (left right : Operand) : Prop :=
  settings.compare? operator left right = some (.ok true)

/-- A comparison of two operands has a verdict. -/
def IsDecided (operator : Operator) (left right : Operand) : Prop :=
  ∃ verdict, settings.compare? operator left right = some (.ok verdict)

/-- The operators that go by the order of two operands. -/
def orderings : List Operator := [.less, .lessOrEqual, .greater, .greaterOrEqual]

/-- The operators that compare two operands. -/
def comparisons : List Operator := [.equal, .notEqual] ++ orderings

/-- Exactly one of three propositions holds. -/
def ExactlyOne (first second third : Prop) : Prop :=
  (first ∧ ¬ second ∧ ¬ third) ∨ (¬ first ∧ second ∧ ¬ third) ∨ (¬ first ∧ ¬ second ∧ third)

/-- How the comparisons of two operands go together. -/
structure Coherent (left right : Operand) : Prop where
  reflexive : settings.Holds .equal left left
  symmetric : settings.Holds .equal left right ↔ settings.Holds .equal right left
  mirrored : settings.Holds .less left right ↔ settings.Holds .greater right left
  mirroredOrEqual :
    settings.Holds .lessOrEqual left right ↔ settings.Holds .greaterOrEqual right left
  negated : settings.IsDecided .equal left right →
    (settings.Holds .notEqual left right ↔ ¬ settings.Holds .equal left right)
  /-- Equality has a verdict unless a number has to be read from an unreadable text. -/
  decided : settings.IsDecided .equal left right ↔
    left.isString ∧ right.isString ∨ ¬ left.IsUnreadable ∧ ¬ right.IsUnreadable
  /-- If no operand is unreadable, then exactly one order holds between them. -/
  ordered : ¬ left.IsUnreadable → ¬ right.IsUnreadable →
    ExactlyOne (settings.Holds .less left right) (settings.Holds .greater left right)
        (settings.Holds .lessOrEqual left right ∧ settings.Holds .greaterOrEqual left right) ∧
      (settings.Holds .lessOrEqual left right ↔ ¬ settings.Holds .greater left right)
  /-- If one is, then no comparison by order has a verdict. -/
  undecided : left.IsUnreadable ∨ right.IsUnreadable →
    ∀ operator ∈ orderings, ¬ settings.IsDecided operator left right

section

variable {left right : Operand} {order : Ordering}

theorem holds_of_ordering (isOrder : settings.ordering left right = .ok (some order)) :
    (settings.Holds .less left right ↔ order = .lt) ∧
    (settings.Holds .lessOrEqual left right ↔ order ≠ .gt) ∧
    (settings.Holds .greater left right ↔ order = .gt) ∧
    (settings.Holds .greaterOrEqual left right ↔ order ≠ .lt) := by
  simp only [Holds, compare?, isOrder, ok_bind]
  cases order <;> decide

theorem not_isDecided_of_ordering {failure : EvaluationError}
    (refused : settings.ordering left right = .error failure) :
    ∀ operator ∈ orderings, ¬ settings.IsDecided operator left right := by
  have failed (accepts : Ordering → Bool) : (do
      return ((← settings.ordering left right).map accepts).getD false) =
        Except.error (α := Bool) failure := by
    rw [refused]
    rfl
  rintro operator member ⟨verdict, decided⟩
  simp only [orderings, List.mem_cons, List.not_mem_nil, or_false] at member
  rcases member with rfl | rfl | rfl | rfl <;> simp only [compare?, failed] at decided <;>
    cases decided

/-- Compared with a missing operand, everything is different, and nothing else holds. -/
theorem compare?_missing (operand : Operand) : ∀ operator ∈ comparisons,
    settings.compare? operator .missing operand = some (.ok (operator == .notEqual)) ∧
      settings.compare? operator operand .missing = some (.ok (operator == .notEqual)) := by
  have unequal : settings.equal operand .missing = .ok false := by cases operand <;> rfl
  have unordered : settings.ordering operand .missing = .ok none :=
    if_pos (Bool.or_true operand.isMissing)
  intro operator member
  simp only [comparisons, orderings, List.cons_append, List.nil_append, List.mem_cons,
    List.not_mem_nil, or_false] at member
  rcases member with rfl | rfl | rfl | rfl | rfl | rfl <;>
    exact ⟨rfl, by simp only [compare?, unequal, unordered]; rfl⟩

end

/-- Equality and difference by the verdict of equality. -/
theorem holds_of_equal {left right : Operand} {verdict : Bool}
    (isVerdict : settings.equal left right = .ok verdict) :
    (settings.Holds .equal left right ↔ verdict = true) ∧
    (settings.Holds .notEqual left right ↔ verdict = false) := by
  simp only [Holds, compare?, isVerdict]
  cases verdict <;> decide

theorem isDecided_equal_iff {left right : Operand} :
    settings.IsDecided .equal left right ↔
      ∃ verdict, settings.equal left right = .ok verdict :=
  exists_congr fun _ => Option.some_inj

/-- Comparisons by order from both sides. -/
theorem coherent_order [OrientedCmp settings.order] (left right : Json) :
    (settings.Holds .less (.json left) (.json right) ↔
      settings.Holds .greater (.json right) (.json left)) ∧
    (settings.Holds .lessOrEqual (.json left) (.json right) ↔
      settings.Holds .greaterOrEqual (.json right) (.json left)) ∧
    (¬ (Operand.json left).IsUnreadable → ¬ (Operand.json right).IsUnreadable →
      ExactlyOne (settings.Holds .less (.json left) (.json right))
          (settings.Holds .greater (.json left) (.json right))
          (settings.Holds .lessOrEqual (.json left) (.json right) ∧
            settings.Holds .greaterOrEqual (.json left) (.json right)) ∧
        (settings.Holds .lessOrEqual (.json left) (.json right) ↔
          ¬ settings.Holds .greater (.json left) (.json right))) ∧
    ((Operand.json left).IsUnreadable ∨ (Operand.json right).IsUnreadable →
      ∀ operator ∈ orderings, ¬ settings.IsDecided operator (.json left) (.json right)) := by
  obtain ⟨readable, readable', order, forward, backward⟩ |
      ⟨unreadable, ⟨_, forward⟩, ⟨_, backward⟩⟩ := settings.ordering_cases left right
  · obtain ⟨less, lessOrEqual, greater, greaterOrEqual⟩ := settings.holds_of_ordering forward
    obtain ⟨-, -, greater', greaterOrEqual'⟩ := settings.holds_of_ordering backward
    rw [less, lessOrEqual, greater, greaterOrEqual, greater', greaterOrEqual']
    refine ⟨?_, ?_, fun _ _ => ?_,
      fun unreadable => (not_or.mpr ⟨readable, readable'⟩ unreadable).elim⟩
    · cases order <;> decide
    · cases order <;> decide
    · cases order <;> simp [ExactlyOne]
  · have refused := settings.not_isDecided_of_ordering forward
    have refused' := settings.not_isDecided_of_ordering backward
    refine ⟨?_, ?_, fun readable readable' => (not_or.mpr ⟨readable, readable'⟩ unreadable).elim,
      fun _ => refused⟩
    · exact iff_of_false (fun holds => refused .less (by decide) ⟨_, holds⟩)
        fun holds => refused' .greater (by decide) ⟨_, holds⟩
    · exact iff_of_false (fun holds => refused .lessOrEqual (by decide) ⟨_, holds⟩)
        fun holds => refused' .greaterOrEqual (by decide) ⟨_, holds⟩

/-- Equality from both sides, and its negation. -/
theorem coherent_equal {left right : Json} (proper : left.IsProper) (proper' : right.IsProper) :
    (settings.Holds .equal (.json left) (.json right) ↔
      settings.Holds .equal (.json right) (.json left)) ∧
    (settings.IsDecided .equal (.json left) (.json right) →
      (settings.Holds .notEqual (.json left) (.json right) ↔
        ¬ settings.Holds .equal (.json left) (.json right))) ∧
    (settings.IsDecided .equal (.json left) (.json right) ↔
      (Operand.json left).isString ∧ (Operand.json right).isString ∨
        ¬ (Operand.json left).IsUnreadable ∧ ¬ (Operand.json right).IsUnreadable) := by
  rw [isDecided_equal_iff, ← areTexts_iff]
  obtain ⟨readable, verdict, forward, backward⟩ |
      ⟨mixed, unreadable, ⟨_, forward⟩, ⟨_, backward⟩⟩ := settings.equal_comm proper proper'
  · obtain ⟨equal, unequal⟩ := settings.holds_of_equal forward
    obtain ⟨equal', -⟩ := settings.holds_of_equal backward
    rw [equal, unequal, equal', Bool.not_eq_true]
    exact ⟨Iff.rfl, fun _ => Iff.rfl, iff_of_true ⟨verdict, forward⟩ readable⟩
  · have refused : ¬ ∃ verdict, settings.equal (.json left) (.json right) = .ok verdict := by
      rw [forward]
      exact nofun
    have refused' : ¬ ∃ verdict, settings.equal (.json right) (.json left) = .ok verdict := by
      rw [backward]
      exact nofun
    refine ⟨?_, fun decided => (refused decided).elim, iff_of_false refused ?_⟩
    · exact iff_of_false (fun holds => refused (settings.isDecided_equal_iff.mp ⟨_, holds⟩))
        fun holds => refused' (settings.isDecided_equal_iff.mp ⟨_, holds⟩)
    · rintro (texts | ⟨readable, readable'⟩)
      · exact mixed texts
      · exact not_or.mpr ⟨readable, readable'⟩ unreadable

/-- **The comparisons form a consistent family**, for JSON values, the order of operands and any
tolerance. Every value is equal to itself, equality is symmetric, and a comparison by order holds
from one side exactly if the opposite one holds from the other side. Two values are different if and
only if they are not equal, and exactly one of less, greater and both with equality holds between
them, unless one of them is a text with the form of a number that cannot be read, in which case no
comparison by order has a verdict. A missing operand is different from everything, and nothing else
holds of it. -/
theorem coherent (tolerance : Binary64) {left right : Json} (proper : left.IsProper)
    (proper' : right.IsProper) :
    Coherent ⟨tolerance, compareOperands⟩ (.json left) (.json right) ∧
    ∀ operand : Operand, ∀ operator ∈ comparisons,
      compare? ⟨tolerance, compareOperands⟩ operator .missing operand =
          some (.ok (operator == .notEqual)) ∧
        compare? ⟨tolerance, compareOperands⟩ operator operand .missing =
          some (.ok (operator == .notEqual)) := by
  refine ⟨?_, compare?_missing _⟩
  generalize isSettings : Comparison.mk tolerance compareOperands = settings
  have oriented : OrientedCmp settings.order :=
    isSettings ▸ inferInstanceAs (OrientedCmp compareOperands)
  have reflexive := (settings.holds_of_equal (settings.equal_self proper)).1.mpr rfl
  obtain ⟨mirrored, mirroredOrEqual, ordered, undecided⟩ := settings.coherent_order left right
  obtain ⟨symmetric, negated, decided⟩ := settings.coherent_equal proper proper'
  exact { reflexive, symmetric, mirrored, mirroredOrEqual, negated, decided, ordered, undecided }

/-- A text that denotes a number and an array. -/
theorem coherent_mixed :
    ((Json.string " 1e3 ").IsProper ∧ (Json.array [.int 1]).IsProper) ∧
    Coherent ⟨defaultTolerance, compareOperands⟩ (.json (.string " 1e3 "))
      (.json (.array [.int 1])) ∧
    compare? ⟨defaultTolerance, compareOperands⟩ .lessOrEqual .missing (.json (.string "\x1c1")) =
      some (.ok false) := by
  have items : (Json.array [.int 1]).IsProper := .array (List.forall_mem_singleton.mpr (.int 1))
  obtain ⟨coherent, missing⟩ := coherent defaultTolerance (.string " 1e3 ") items
  exact ⟨⟨.string _, items⟩, coherent, (missing _ .lessOrEqual (by decide)).1⟩

/-- A text with the form of a number that cannot be read, and a number. Not one of the three
possible orders holds between them. -/
theorem not_exactlyOne_separated :
    (Json.string "\x1c1").IsProper ∧ (Json.int 5).IsProper ∧
    ¬ ExactlyOne
      (Holds ⟨defaultTolerance, compareOperands⟩ .less (.json (.string "\x1c1")) (.json (.int 5)))
      (Holds ⟨defaultTolerance, compareOperands⟩ .greater (.json (.string "\x1c1"))
        (.json (.int 5)))
      (Holds ⟨defaultTolerance, compareOperands⟩ .lessOrEqual (.json (.string "\x1c1"))
          (.json (.int 5)) ∧
        Holds ⟨defaultTolerance, compareOperands⟩ .greaterOrEqual (.json (.string "\x1c1"))
          (.json (.int 5))) := by
  refine ⟨.string _, .int 5, fun holds => ?_⟩
  have unreadable : (Operand.json (.string "\x1c1")).IsUnreadable :=
    ⟨"\x1c1", rfl, by decide +kernel⟩
  have undecided := (coherent_order ⟨defaultTolerance, compareOperands⟩ _ (.int 5)).2.2.2
    (.inl unreadable)
  rcases holds with ⟨less, -, -⟩ | ⟨-, greater, -⟩ | ⟨-, -, lessOrEqual, -⟩
  · exact undecided .less (by decide) ⟨_, less⟩
  · exact undecided .greater (by decide) ⟨_, greater⟩
  · exact undecided .lessOrEqual (by decide) ⟨_, lessOrEqual⟩

end Comparison

end DocQuery
