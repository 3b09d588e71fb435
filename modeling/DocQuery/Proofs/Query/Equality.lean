/-
**Equal queries, and what tells them apart.**

Equality of queries ignores places, and compares constants by their values: the number 1 is equal to
the truth value true and, whole or not, to itself, and both zeros are equal.

* `constants_of_same`, `unplaced_of_same`: equal expressions have equal constants one by one, and if
  these are identical then the expressions differ in places only;
* `Operand.form`: the type and the sign of a constant. `eq_of_same` says that literals that are
  equal and have the same form are identical;
* `Query.execute_unplaced`: an execution does not depend on places;
* `Query.execute_of_same`: equal queries with constants of the same form are executed alike.
-/

import DocQuery.Proofs.Query.Execution
import DocQuery.Proofs.Query.Refusal
import Mathlib.Data.List.Forall2

namespace DocQuery

/-! ### Constants -/

/-- Whether a number is negative, as minus zero is. -/
def Binary64.isNegative : Binary64 → Bool
  | .nan => false
  | .infinite negative | .finite negative _ _ => negative

theorem Binary64.eq_of_same {x y : Binary64} (same : x.same y)
    (sign : x.isNegative = y.isNegative) : x = y := by
  cases x with
  | nan => cases same
  | infinite negative =>
    cases y with
    | nan => cases same
    | infinite other =>
      cases sign
      rfl
    | finite => cases negative <;> cases same
  | finite negative units =>
    cases y with
    | nan => cases same
    | infinite other => cases other <;> cases same
    | finite other units' =>
      cases sign
      have equal : units = units' := by
        cases negative <;> simp [Binary64.same, Binary64.lt] at same <;> omega
      subst equal
      rfl

/-- The type of a constant, and whether it is a negative number with a point. -/
def Operand.form (operand : Operand) : String × Bool :=
  (operand.kind, match operand with
    | .json (.float number) => number.isNegative
    | _ => false)

/-- Literals that are equal and have the same form are identical. -/
theorem eq_of_same {value other : Json} (literal : IsLiteral value) (same : value.same other)
    (form : (Operand.json value).form = (Operand.json other).form) : value = other := by
  obtain ⟨kind, sign⟩ := Prod.mk.inj form
  cases value with
  | null =>
    cases other with
    | null => rfl
    | _ => cases same
  | bool verdict =>
    cases other with
    | bool => exact congrArg Json.bool (eq_of_beq same)
    | _ => simp [Operand.kind] at kind
  | int number =>
    cases other with
    | int => exact congrArg Json.int (eq_of_beq same)
    | _ => simp [Operand.kind] at kind
  | float number =>
    cases other with
    | float other =>
      rcases Bool.or_eq_true_iff.mp same with same | undefined
      · exact congrArg Json.float (Binary64.eq_of_same same sign)
      · exact absurd (eq_of_beq (Bool.and_eq_true_iff.mp undefined).1) literal
    | _ => simp [Operand.kind] at kind
  | string text =>
    cases other with
    | string => exact congrArg Json.string (eq_of_beq same)
    | _ => cases same
  | array | object => exact literal.elim

namespace Expr

mutual

/-- Equal expressions have equal constants, one by one. -/
theorem constants_of_same : (expr other : Expr) → expr.same other →
    List.Forall₂ (fun left right => left.same right) expr.constants other.constants
  | .constant value _, other, same => by
    cases other with
    | constant => exact .cons same .nil
    | _ => cases same
  | .property _ _, other, same | .parameter _ _, other, same | .everything, other, same => by
    cases other with
    | property | parameter | everything => exact .nil
    | _ => cases same
  | .binary left _ right _, other, same => by
    cases other with
    | binary left' _ right' =>
      obtain ⟨same, sameRight⟩ := Bool.and_eq_true_iff.mp same
      obtain ⟨sameLeft, -⟩ := Bool.and_eq_true_iff.mp same
      exact List.rel_append (constants_of_same left left' sameLeft)
        (constants_of_same right right' sameRight)
    | _ => cases same
  | .unary _ operand _, other, same => by
    cases other with
    | unary _ operand' => exact constants_of_same operand operand' (Bool.and_eq_true_iff.mp same).2
    | _ => cases same
  | .call _ arguments _, other, same => by
    cases other with
    | call _ arguments' =>
      exact argumentConstants_of_same arguments arguments' (Bool.and_eq_true_iff.mp same).2
    | _ => cases same
  | .between value lower upper _, other, same => by
    cases other with
    | between value' lower' upper' =>
      obtain ⟨same, sameUpper⟩ := Bool.and_eq_true_iff.mp same
      obtain ⟨sameValue, sameLower⟩ := Bool.and_eq_true_iff.mp same
      exact List.rel_append (constants_of_same value value' sameValue)
        (List.rel_append (constants_of_same lower lower' sameLower)
          (constants_of_same upper upper' sameUpper))
    | _ => cases same

theorem argumentConstants_of_same : (arguments others : List Expr) →
    sameArguments arguments others →
    List.Forall₂ (fun left right => left.same right) (argumentConstants arguments)
      (argumentConstants others)
  | [], [], _ => .nil
  | argument :: more, other :: others, same => by
    obtain ⟨same, sameMore⟩ := Bool.and_eq_true_iff.mp same
    exact List.rel_append (constants_of_same argument other same)
      (argumentConstants_of_same more others sameMore)

end

mutual

/-- Equal expressions with identical constants differ in places only. -/
theorem unplaced_of_same : (expr other : Expr) → expr.same other →
    expr.constants = other.constants → expr.unplaced = other.unplaced
  | .constant value _, other, same, identical => by
    cases other with
    | constant =>
      cases identical
      rfl
    | _ => cases same
  | .property path _, other, same, _ => by
    cases other with
    | property =>
      cases eq_of_beq same
      rfl
    | _ => cases same
  | .parameter name _, other, same, _ => by
    cases other with
    | parameter =>
      cases eq_of_beq same
      rfl
    | _ => cases same
  | .binary left operator right _, other, same, identical => by
    cases other with
    | binary left' _ right' =>
      obtain ⟨same, sameRight⟩ := Bool.and_eq_true_iff.mp same
      obtain ⟨sameLeft, sameOperator⟩ := Bool.and_eq_true_iff.mp same
      cases eq_of_beq sameOperator
      obtain ⟨identicalLeft, identicalRight⟩ :=
        List.append_inj identical (constants_of_same left left' sameLeft).length_eq
      rw [unplaced, unplaced, unplaced_of_same left left' sameLeft identicalLeft,
        unplaced_of_same right right' sameRight identicalRight]
    | _ => cases same
  | .unary operator operand _, other, same, identical => by
    cases other with
    | unary _ operand' =>
      obtain ⟨sameOperator, sameOperand⟩ := Bool.and_eq_true_iff.mp same
      cases eq_of_beq sameOperator
      rw [unplaced, unplaced, unplaced_of_same operand operand' sameOperand identical]
    | _ => cases same
  | .call name arguments _, other, same, identical => by
    cases other with
    | call _ arguments' =>
      obtain ⟨sameName, sameArguments⟩ := Bool.and_eq_true_iff.mp same
      cases eq_of_beq sameName
      rw [unplaced, unplaced,
        unplacedArguments_of_same arguments arguments' sameArguments identical]
    | _ => cases same
  | .between value lower upper _, other, same, identical => by
    cases other with
    | between value' lower' upper' =>
      obtain ⟨same, sameUpper⟩ := Bool.and_eq_true_iff.mp same
      obtain ⟨sameValue, sameLower⟩ := Bool.and_eq_true_iff.mp same
      obtain ⟨identicalValue, identical⟩ :=
        List.append_inj identical (constants_of_same value value' sameValue).length_eq
      obtain ⟨identicalLower, identicalUpper⟩ :=
        List.append_inj identical (constants_of_same lower lower' sameLower).length_eq
      rw [unplaced, unplaced, unplaced_of_same value value' sameValue identicalValue,
        unplaced_of_same lower lower' sameLower identicalLower,
        unplaced_of_same upper upper' sameUpper identicalUpper]
    | _ => cases same
  | .everything, other, same, _ => by
    cases other with
    | everything => rfl
    | _ => cases same

theorem unplacedArguments_of_same : (arguments others : List Expr) →
    sameArguments arguments others → argumentConstants arguments = argumentConstants others →
    unplacedArguments arguments = unplacedArguments others
  | [], [], _, _ => rfl
  | argument :: more, other :: others, same, identical => by
    obtain ⟨same, sameMore⟩ := Bool.and_eq_true_iff.mp same
    obtain ⟨identical, identicalMore⟩ :=
      List.append_inj identical (constants_of_same argument other same).length_eq
    rw [unplacedArguments, unplacedArguments, unplaced_of_same argument other same identical,
      unplacedArguments_of_same more others sameMore identicalMore]

end

/-- The constants of a writable expression are literals. -/
theorem Writable.isLiteral {expr : Expr} (writable : expr.Writable) :
    ∀ constant ∈ expr.constants, ∃ value, constant = .json value ∧ IsLiteral value := by
  induction writable with
  | constant literal =>
    intro constant member
    exact ⟨_, List.mem_singleton.mp member, literal⟩
  | property | parameter => exact fun _ member => absurd member List.not_mem_nil
  | binary _ _ _ ihLeft ihRight => exact List.forall_mem_append.mpr ⟨ihLeft, ihRight⟩
  | not _ ih => exact ih
  | call _ _ ih =>
    intro constant member
    rw [constants, argumentConstants_eq] at member
    obtain ⟨argument, isArgument, member⟩ := List.mem_flatMap.mp member
    exact ih argument isArgument constant member
  | between _ _ _ ihValue ihLower ihUpper =>
    exact List.forall_mem_append.mpr ⟨ihValue, List.forall_mem_append.mpr ⟨ihLower, ihUpper⟩⟩

end Expr

/-- Literals that are equal one by one and have the same forms are identical. -/
theorem constants_eq_of_same {constants others : List Operand}
    (literals : ∀ constant ∈ constants, ∃ value, constant = .json value ∧ IsLiteral value)
    (same : List.Forall₂ (fun left right => left.same right) constants others)
    (forms : constants.map Operand.form = others.map Operand.form) : constants = others := by
  induction same with
  | nil => rfl
  | @cons constant other _ _ same _ ih =>
    obtain ⟨form, otherForms⟩ := List.cons.inj forms
    obtain ⟨⟨value, rfl, literal⟩, others⟩ := List.forall_mem_cons.mp literals
    cases other with
    | json => rw [eq_of_same literal same form, ih others otherForms]
    | _ => cases same

/-! ### Executions without places -/

theorem unaryTruth_unplaced (operator : Operator) (operand : Expr) (meant : Meaning) :
    unaryTruth operator operand.unplaced meant = unaryTruth operator operand meant := by
  cases operator with
  | not => cases operand <;> rfl
  | _ => rfl

section

variable (scope : Scope) (document : Operand)

mutual

/-- A meaning does not depend on places. -/
theorem meaning_unplaced : (expr : Expr) →
    meaning scope document expr.unplaced = meaning scope document expr
  | .constant _ _ | .property _ _ | .parameter _ _ | .everything => rfl
  | .binary left operator right _ => by
    simp only [Expr.unplaced, meaning, meaning_unplaced left, meaning_unplaced right]
  | .unary operator operand _ => by
    simp only [Expr.unplaced, meaning, meaning_unplaced operand, unaryTruth_unplaced]
  | .call name arguments _ => by
    simp only [Expr.unplaced, meaning, argumentValues_unplaced arguments]
  | .between value lower upper _ => by
    simp only [Expr.unplaced, meaning, meaning_unplaced value, meaning_unplaced lower,
      meaning_unplaced upper]

theorem argumentValues_unplaced : (arguments : List Expr) →
    argumentValues scope document (Expr.unplacedArguments arguments) =
      argumentValues scope document arguments
  | [] => rfl
  | argument :: more => by
    simp only [Expr.unplacedArguments, argumentValues, meaning_unplaced argument,
      argumentValues_unplaced more]

end

end

namespace Query

/-- An execution does not depend on places. -/
theorem execute_unplaced (query : Query) (settings : QuerySettings) (registry : Registry)
    (given : Json) (documents : List Fields) :
    query.unplaced.execute settings registry given documents =
      query.execute settings registry given documents := by
  have executed (scope : Scope) :
      query.unplaced.executeIn scope documents = query.executeIn scope documents := by
    have same (condition : Expr) (_ : condition ∈ query.condition) (document : Operand) :
        SameUpTo id (holds scope condition.unplaced document) (holds scope condition document) :=
      sameUpTo_id.mpr (congrArg Meaning.truth (meaning_unplaced scope document condition))
    exact sameUpTo_id.mp (executeIn_sameUpTo rfl same documents)
  simp only [execute, executed]
  rfl

/-- Equal queries with constants of the same form differ in places only. -/
theorem unplaced_of_same {query other : Query} (writable : query.Writable)
    (same : query.same other)
    (forms : query.constants.map Operand.form = other.constants.map Operand.form) :
    query.unplaced = other.unplaced := by
  obtain ⟨selection, top, source, condition, order, limit⟩ := query
  obtain ⟨selection', top', source', condition', order', limit'⟩ := other
  simp only [Query.same, Bool.and_eq_true, beq_iff_eq] at same
  obtain ⟨⟨⟨⟨⟨rfl, rfl⟩, rfl⟩, same⟩, rfl⟩, rfl⟩ := same
  cases condition with
  | none =>
    cases condition' with
    | none => rfl
    | some => cases same
  | some condition =>
    cases condition' with
    | none => cases same
    | some condition' =>
      have identical := constants_eq_of_same (writable.condition condition rfl).isLiteral
        (condition.constants_of_same condition' same) forms
      rw [unplaced, unplaced, Option.map_some, Option.map_some,
        condition.unplaced_of_same condition' same identical]

/-- **Equal queries with constants of the same form are executed alike**: with the same answer or
the same failure, whatever the parameters and the documents are. -/
theorem execute_of_same {text : String} {query other : Query} (accepted : read text = .ok query)
    (same : query.same other)
    (forms : query.constants.map Operand.form = other.constants.map Operand.form)
    (settings : QuerySettings) (registry : Registry) (given : Json) (documents : List Fields) :
    query.execute settings registry given documents =
      other.execute settings registry given documents := by
  rw [← execute_unplaced query, unplaced_of_same (writable_of_read accepted) same forms,
    execute_unplaced]

theorem exists_read_two {text text' : String} (property : Query → Query → Bool)
    (holds : (read text).toOption.any fun query => (read text').toOption.any (property query)) :
    ∃ query other, read text = .ok query ∧ read text' = .ok other ∧ property query other := by
  obtain ⟨query, accepted, holds⟩ := exists_of_any holds
  obtain ⟨other, accepted', holds⟩ := exists_of_any holds
  exact ⟨query, other, accepted, accepted', holds⟩

/-- A condition in parentheses. -/
theorem execute_of_same_parenthesized :
    ∃ query other, read "SELECT * FROM c WHERE c.x = 1" = .ok query ∧
      read "select * from c where (c.x = 1)" = .ok other ∧
      ∀ documents, query.execute {} .standard .null documents =
        other.execute {} .standard .null documents := by
  obtain ⟨query, other, accepted, accepted', equal⟩ := exists_read_two
    (fun query other => query.same other &&
      query.constants.map Operand.form == other.constants.map Operand.form)
    (show (read "SELECT * FROM c WHERE c.x = 1").toOption.any (fun query =>
      (read "select * from c where (c.x = 1)").toOption.any _) by decide +kernel)
  obtain ⟨same, forms⟩ := Bool.and_eq_true_iff.mp equal
  exact ⟨query, other, accepted, accepted',
    execute_of_same accepted same (eq_of_beq forms) {} .standard .null⟩

/-- Two texts are read as equal queries that are executed differently on a document. -/
def TellsApart (document : Fields) (text text' : String) : Prop :=
  ∃ query other, read text = .ok query ∧ read text' = .ok other ∧ query.same other ∧
    query.execute {} .standard .null [document] ≠ other.execute {} .standard .null [document]

theorem tellsApart_of_length {document : Fields} {text text' : String}
    (holds : (read text).toOption.any fun query => (read text').toOption.any fun other =>
      query.same other && (query.execute {} .standard .null [document]).toOption.map List.length !=
        (other.execute {} .standard .null [document]).toOption.map List.length) :
    TellsApart document text text' := by
  obtain ⟨query, other, accepted, accepted', differ⟩ := exists_read_two _ holds
  obtain ⟨same, lengths⟩ := Bool.and_eq_true_iff.mp differ
  exact ⟨query, other, accepted, accepted', same, fun equal =>
    bne_iff_ne.mp lengths (congrArg (fun outcome => outcome.toOption.map List.length) equal)⟩

/-- Types and signs of constants make a difference, in comparisons and where a text is asked for. -/
theorem tellsApart_forms :
    TellsApart [("x", .bool true)] "SELECT * FROM c WHERE c.x = true"
      "SELECT * FROM c WHERE c.x = 1" ∧
    TellsApart [("t", .string "a1")] "SELECT * FROM c WHERE CONTAINS(c.t, 1)"
      "SELECT * FROM c WHERE CONTAINS(c.t, 1.0)" ∧
    TellsApart [("t", .string "a0.0")] "SELECT * FROM c WHERE CONTAINS(c.t, 0.0)"
      "SELECT * FROM c WHERE CONTAINS(c.t, -0.0)" :=
  ⟨tellsApart_of_length (by decide +kernel), tellsApart_of_length (by decide +kernel),
    tellsApart_of_length (by decide +kernel)⟩

end Query

end DocQuery
