/-
**Parameters stand for constants.**

* `Expr.substitute`, `Query.substitute`: a tree with constants in place of its parameters;
* `meaning_substitute`: an expression means the same once its parameters are replaced by their
  values. Only the operand that a failure quotes is then another one, `EvaluationError.unworded`
  leaves it out. The proof goes through the places where an expression has another meaning as a
  value, as a condition and behind a negation;
* `Query.execute_substitute`: an execution with parameters is one without parameters of the query
  with the last given values in their place. Parameters that agree on the names in the query are
  interchangeable.
-/

import DocQuery.Proofs.Query.Binding
import DocQuery.Proofs.Query.Execution
import DocQuery.Proofs.Query.Refusal

namespace DocQuery

/-! ### Trees with constants in place of parameters -/

namespace Expr

section

variable (value : String → Operand)

mutual

/-- An expression with constants in place of its parameters. -/
def substitute : Expr → Expr
  | .constant operand position => .constant operand position
  | .property path position => .property path position
  | .parameter name position => .constant (value name) position
  | .binary left operator right position =>
    .binary (substitute left) operator (substitute right) position
  | .unary operator operand position => .unary operator (substitute operand) position
  | .call name arguments position => .call name (substituteArguments arguments) position
  | .between tested lower upper position =>
    .between (substitute tested) (substitute lower) (substitute upper) position
  | .everything => .everything

/-- The arguments of a function with constants in place of their parameters. -/
def substituteArguments : List Expr → List Expr
  | [] => []
  | argument :: more => substitute argument :: substituteArguments more

end

end

mutual

/-- The names of the parameters of an expression. -/
def parameters : Expr → List String
  | .parameter name _ => [name]
  | .constant _ _ | .property _ _ | .everything => []
  | .binary left _ right _ => left.parameters ++ right.parameters
  | .unary _ operand _ => operand.parameters
  | .call _ arguments _ => argumentParameters arguments
  | .between tested lower upper _ => tested.parameters ++ (lower.parameters ++ upper.parameters)

/-- The names of the parameters of the arguments of a function. -/
def argumentParameters : List Expr → List String
  | [] => []
  | argument :: more => argument.parameters ++ argumentParameters more

end

theorem argumentParameters_eq (arguments : List Expr) :
    argumentParameters arguments = arguments.flatMap parameters := by
  induction arguments with
  | nil => rfl
  | cons argument more ih => rw [argumentParameters, ih, List.flatMap_cons]

/-- The parameters of a writable expression have names. -/
theorem Writable.isName {expr : Expr} (writable : expr.Writable) :
    ∀ name ∈ expr.parameters, IsName name.toList := by
  induction writable with
  | constant | property => exact fun _ member => absurd member List.not_mem_nil
  | parameter isName =>
    intro name member
    rwa [List.mem_singleton.mp member]
  | binary _ _ _ ihLeft ihRight => exact List.forall_mem_append.mpr ⟨ihLeft, ihRight⟩
  | not _ ih => exact ih
  | call _ _ ih =>
    intro name member
    rw [parameters, argumentParameters_eq] at member
    obtain ⟨argument, isArgument, member⟩ := List.mem_flatMap.mp member
    exact ih argument isArgument name member
  | between _ _ _ ihValue ihLower ihUpper =>
    exact List.forall_mem_append.mpr ⟨ihValue, List.forall_mem_append.mpr ⟨ihLower, ihUpper⟩⟩

end Expr

namespace Query

/-- A query with constants in place of its parameters. -/
def substitute (value : String → Operand) (query : Query) : Query :=
  { query with condition := query.condition.map (Expr.substitute value) }

/-- The names of the parameters of a query. -/
def parameters (query : Query) : List String := (query.condition.map Expr.parameters).getD []

theorem head?_ne_sign_of_isName {cs : List Char} (name : IsName cs) : cs.head? ≠ some '@' := by
  cases cs with
  | nil => exact name.elim
  | cons first more =>
    rintro ⟨⟩
    exact absurd name.1 (by decide)

theorem isName_of_read {text : String} {query : Query} (accepted : read text = .ok query) :
    ∀ name ∈ query.parameters, IsName name.toList := by
  have writable := (writable_of_read accepted).condition
  unfold parameters
  cases isCondition : query.condition with
  | none => exact fun _ member => absurd member List.not_mem_nil
  | some condition => exact (writable condition isCondition).isName

end Query

/-! ### Failures without the quoted operand -/

/-- A failure without the written form of the operand that it quotes. -/
def EvaluationError.unworded : EvaluationError → EvaluationError
  | .notBoolean kind _ => .notBoolean kind ""
  | failure => failure

/-- A failure of an execution without the written form of the operand that it quotes. -/
def ExecutionError.unworded : ExecutionError → ExecutionError
  | .evaluation cause => .evaluation cause.unworded
  | .parameters cause => .parameters cause

theorem SameUpTo.unworded {α : Type} {first second : Except EvaluationError α}
    (same : SameUpTo EvaluationError.unworded first second) :
    SameUpTo ExecutionError.unworded (first.mapError .evaluation)
      (second.mapError .evaluation) := by
  cases first <;> cases second <;> simp_all [SameUpTo, ExecutionError.unworded]

/-! ### Meanings -/

/-- Two meanings are the same but for the operands that failures quote. -/
structure Meaning.Agrees (first second : Meaning) : Prop where
  operand : SameUpTo EvaluationError.unworded first.operand second.operand
  truth : SameUpTo EvaluationError.unworded first.truth second.truth

theorem Meaning.Agrees.refl (meant : Meaning) : meant.Agrees meant := ⟨rfl, rfl⟩

theorem agrees_ofTruth {truth truth' : Except EvaluationError Bool}
    (same : SameUpTo EvaluationError.unworded truth truth') :
    (Meaning.ofTruth truth).Agrees (.ofTruth truth') := ⟨same.map _, same⟩

theorem binaryTruth_agrees (comparison : Comparison) (operator : Operator)
    {left left' right right' : Meaning} (sameLeft : left.Agrees left')
    (sameRight : right.Agrees right') :
    SameUpTo EvaluationError.unworded (binaryTruth comparison operator left right)
      (binaryTruth comparison operator left' right') := by
  have values (test : Operand → Operand → Except EvaluationError Bool) :
      SameUpTo EvaluationError.unworded (do test (← left.operand) (← right.operand))
        (do test (← left'.operand) (← right'.operand)) :=
    sameLeft.operand.bind fun _ => sameRight.operand.bind fun _ => SameUpTo.refl _
  cases operator with
  | and =>
    refine sameLeft.truth.bind fun verdict => ?_
    cases verdict with
    | true => exact sameRight.truth
    | false => exact SameUpTo.refl _
  | or =>
    refine sameLeft.truth.bind fun verdict => ?_
    cases verdict with
    | true => exact SameUpTo.refl _
    | false => exact sameRight.truth
  | _ => exact values _

theorem negatedValue_agrees (operand : Operand) (text text' : String) :
    SameUpTo EvaluationError.unworded (negatedValue operand text) (negatedValue operand text') := by
  unfold negatedValue
  split
  · exact SameUpTo.refl _
  · split <;> rfl

/-- An expression is a value by itself, and negated as one. All others are negated as conditions. -/
def Expr.isValue : Expr → Bool
  | .constant .. | .property .. | .parameter .. => true
  | _ => false

theorem unaryTruth_not (operand : Expr) (meant : Meaning) :
    unaryTruth .not operand meant =
      if operand.isValue then do negatedValue (← meant.operand) operand.text
      else not <$> meant.truth := by
  cases operand <;> rfl

/-- Expressions that mean the same are negated in the same way, if both are values or none is. -/
theorem unaryTruth_agrees (operator : Operator) {operand operand' : Expr}
    (alike : operand.isValue = operand'.isValue) {meant meant' : Meaning}
    (same : meant.Agrees meant') :
    SameUpTo EvaluationError.unworded (unaryTruth operator operand meant)
      (unaryTruth operator operand' meant') := by
  cases operator with
  | not =>
    rw [unaryTruth_not, unaryTruth_not, alike]
    split
    · exact same.operand.bind fun operand => negatedValue_agrees operand _ _
    · exact same.truth.map _
  | _ => exact SameUpTo.refl _

/-- A parameter becomes a constant, which is a value too. -/
theorem isValue_substitute (value : String → Operand) (expr : Expr) :
    (expr.substitute value).isValue = expr.isValue := by
  cases expr <;> rfl

section

variable (scope : Scope) (bound : Fields) (document : Operand)

mutual

/-- **An expression means the same once its parameters are replaced** by their values, whatever
parameters are then bound. -/
theorem meaning_substitute {value : String → Operand} : (expr : Expr) →
    (∀ name ∈ expr.parameters, parameterOf scope.parameters name = value name) →
    (meaning { scope with parameters := bound } document (expr.substitute value)).Agrees
      (meaning scope document expr)
  | .constant _ _, _ | .property _ _, _ | .everything, _ => .refl _
  | .parameter name _, values => by
    rw [meaning, values name List.mem_cons_self]
    exact .refl _
  | .binary left operator right _, values => by
    obtain ⟨valuesLeft, valuesRight⟩ := List.forall_mem_append.mp values
    exact agrees_ofTruth (binaryTruth_agrees _ operator (meaning_substitute left valuesLeft)
      (meaning_substitute right valuesRight))
  | .unary operator operand _, values =>
    agrees_ofTruth (unaryTruth_agrees operator (isValue_substitute value operand)
      (meaning_substitute operand values))
  | .call name arguments _, values =>
    agrees_ofTruth ((argumentValues_substitute arguments values).bind fun _ => SameUpTo.refl _)
  | .between tested lower upper _, values => by
    obtain ⟨valuesTested, values⟩ := List.forall_mem_append.mp values
    obtain ⟨valuesLower, valuesUpper⟩ := List.forall_mem_append.mp values
    have bounds := (meaning_substitute lower valuesLower).operand.bind fun low =>
      (meaning_substitute upper valuesUpper).operand.bind fun high =>
        SameUpTo.refl (.ok (Operand.pair low high))
    exact ⟨bounds, (meaning_substitute tested valuesTested).operand.bind fun _ =>
      bounds.bind fun _ => SameUpTo.refl _⟩

theorem argumentValues_substitute {value : String → Operand} : (arguments : List Expr) →
    (∀ name ∈ Expr.argumentParameters arguments, parameterOf scope.parameters name = value name) →
    SameUpTo EvaluationError.unworded
      (argumentValues { scope with parameters := bound } document
        (Expr.substituteArguments value arguments))
      (argumentValues scope document arguments)
  | [], _ => SameUpTo.refl _
  | argument :: more, values => by
    obtain ⟨valuesFirst, valuesMore⟩ := List.forall_mem_append.mp values
    exact (meaning_substitute argument valuesFirst).operand.bind fun _ =>
      (argumentValues_substitute more valuesMore).bind fun _ => SameUpTo.refl _

end

mutual

/-- The meaning of an expression depends on the values of its own parameters only. -/
theorem meaning_congr : (expr : Expr) →
    (∀ name ∈ expr.parameters, parameterOf bound name = parameterOf scope.parameters name) →
    meaning { scope with parameters := bound } document expr = meaning scope document expr
  | .constant _ _, _ | .property _ _, _ | .everything, _ => rfl
  | .parameter name _, values => by rw [meaning, meaning, values name List.mem_cons_self]
  | .binary left operator right _, values => by
    obtain ⟨valuesLeft, valuesRight⟩ := List.forall_mem_append.mp values
    rw [meaning, meaning, meaning_congr left valuesLeft, meaning_congr right valuesRight]
  | .unary operator operand _, values => by rw [meaning, meaning, meaning_congr operand values]
  | .call name arguments _, values => by
    rw [meaning, meaning, argumentValues_congr arguments values]
  | .between tested lower upper _, values => by
    obtain ⟨valuesTested, values⟩ := List.forall_mem_append.mp values
    obtain ⟨valuesLower, valuesUpper⟩ := List.forall_mem_append.mp values
    rw [meaning, meaning, meaning_congr tested valuesTested, meaning_congr lower valuesLower,
      meaning_congr upper valuesUpper]

theorem argumentValues_congr : (arguments : List Expr) →
    (∀ name ∈ Expr.argumentParameters arguments,
      parameterOf bound name = parameterOf scope.parameters name) →
    argumentValues { scope with parameters := bound } document arguments =
      argumentValues scope document arguments
  | [], _ => rfl
  | argument :: more, values => by
    obtain ⟨valuesFirst, valuesMore⟩ := List.forall_mem_append.mp values
    rw [argumentValues, argumentValues, meaning_congr argument valuesFirst,
      argumentValues_congr more valuesMore]

end

end

/-! ### Executions -/

namespace Query

theorem mem_parameters {query : Query} {condition : Expr}
    (isCondition : condition ∈ query.condition) {name : String} :
    name ∈ query.parameters ↔ name ∈ condition.parameters := by
  rw [parameters, isCondition, Option.map_some, Option.getD_some]

section

variable {query : Query} (scope : Scope) {bound : Fields} (documents : List Fields)

theorem executeIn_substitute {value : String → Operand}
    (values : ∀ name ∈ query.parameters, parameterOf scope.parameters name = value name) :
    SameUpTo EvaluationError.unworded
      ((query.substitute value).executeIn { scope with parameters := bound } documents)
      (query.executeIn scope documents) := by
  have same (condition : Expr) (isCondition : condition ∈ query.condition) (document : Operand) :
      SameUpTo EvaluationError.unworded
        (holds { scope with parameters := bound } (condition.substitute value) document)
        (holds scope condition document) :=
    (meaning_substitute scope bound document condition fun name member =>
      values name ((mem_parameters isCondition).mpr member)).truth
  exact executeIn_sameUpTo (by rfl) same documents

theorem executeIn_parameters
    (values : ∀ name ∈ query.parameters,
      parameterOf bound name = parameterOf scope.parameters name) :
    query.executeIn { scope with parameters := bound } documents =
      query.executeIn scope documents := by
  have same (condition : Expr) (isCondition : condition ∈ query.condition) (document : Operand) :
      holds { scope with parameters := bound } condition document =
        holds scope condition document :=
    congrArg Meaning.truth (meaning_congr scope bound document condition fun name member =>
      values name ((mem_parameters isCondition).mpr member))
  exact executeIn_congr (by rfl) same documents

end

/-- **Parameters stand for constants.** With parameters that are accepted, an execution ends as one
without parameters of the query that has, in place of each parameter, the last value given for its
name, with or without the sign in front of it, or a missing constant. If it fails then for the same
cause, but for the written form of a quoted operand. Other parameters that are accepted, and give
the same values for the names in the query, make no difference at all. -/
theorem execute_substitute {text : String} {query : Query} (accepted : read text = .ok query)
    {given : Json} {bound : Fields} (isBound : bindParameters given = .ok bound) :
    ∃ assigned, assignments? given = some assigned ∧
      ∀ (settings : QuerySettings) (registry : Registry) (documents : List Fields),
        SameUpTo ExecutionError.unworded
          ((query.substitute (assignedOperand assigned)).execute settings registry .null documents)
          (query.execute settings registry given documents) ∧
        ∀ (other : Json) (bound' : Fields) (assigned' : List (String × Json)),
          bindParameters other = .ok bound' → assignments? other = some assigned' →
          (∀ name ∈ query.parameters, lastValue? assigned' name = lastValue? assigned name) →
          query.execute settings registry other documents =
            query.execute settings registry given documents := by
  have plain (name : String) (member : name ∈ query.parameters) : name.toList.head? ≠ some '@' :=
    head?_ne_sign_of_isName (isName_of_read accepted name member)
  obtain ⟨assigned, isAssigned, -, -⟩ := bindParameters_eq_ok.mp isBound
  have values (name : String) (member : name ∈ query.parameters) :
      parameterOf bound name = assignedOperand assigned name :=
    parameterOf_bindParameters isBound isAssigned (plain name member)
  refine ⟨assigned, isAssigned, fun settings registry documents => ?_⟩
  let scope : Scope := ⟨settings.comparison, registry,
    knownAliases settings.implicitAliases (some query.source), bound⟩
  constructor
  · have unbound : bindParameters .null = .ok [] := rfl
    rw [execute_eq_mapError isBound, execute_eq_mapError unbound]
    exact (executeIn_substitute scope documents values).unworded
  · intro other bound' assigned' isBound' isAssigned' agree
    have values' (name : String) (member : name ∈ query.parameters) :
        parameterOf bound' name = parameterOf bound name := by
      rw [parameterOf_bindParameters isBound' isAssigned' (plain name member), values name member,
        assignedOperand, assignedOperand, agree name member]
    rw [execute_eq_mapError isBound, execute_eq_mapError isBound']
    exact congrArg _ (executeIn_parameters scope documents values')

/-- Two values for one name, of which the second one is given without a sign. -/
def givenTwice : Json :=
  .array [.array [.string "@p", .int 1], .object [("name", .string "p"), ("value", .bool true)]]

/-- A negated parameter, with a name that is given twice, and one without a value. -/
theorem execute_substitute_givenTwice :
    ∃ query, read "SELECT * FROM c WHERE c.x = @q OR NOT @p" = .ok query ∧
      ∃ bound, bindParameters givenTwice = .ok bound ∧
        ∃ assigned, assignments? givenTwice = some assigned ∧ ∀ documents,
          SameUpTo ExecutionError.unworded
            ((query.substitute (assignedOperand assigned)).execute {} .standard .null documents)
            (query.execute {} .standard givenTwice documents) := by
  obtain ⟨query, accepted, -⟩ := exists_read (fun _ => True)
    (show (read "SELECT * FROM c WHERE c.x = @q OR NOT @p").toOption.any _ by decide +kernel)
  have isBound : bindParameters givenTwice = .ok [("p", .bool true)] := rfl
  obtain ⟨assigned, isAssigned, same⟩ := execute_substitute accepted isBound
  exact ⟨query, accepted, _, isBound, assigned, isAssigned, fun documents =>
    (same {} .standard documents).1⟩

end Query

end DocQuery
