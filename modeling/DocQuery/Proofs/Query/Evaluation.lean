/-
**The evaluation of a query that was read fails for few causes.**

* `Meaning.Sound`: an expression means an operand made of given texts, or fails as expected, and so
  does its truth. `sound_meaning` says that every writable expression does so;
* `Query.execute_fails`: a query that was read has an answer, or fails because a negated value is no
  truth value, a function is unknown, a call has a wrong number of arguments, or no number can be
  read from a text that occurs in the query, the documents or the parameters.
-/

import DocQuery.Proofs.Operand.Failure
import DocQuery.Proofs.Query.Binding
import DocQuery.Proofs.Query.Execution
import DocQuery.Proofs.Query.Path
import DocQuery.Proofs.Query.Refusal

namespace DocQuery

/-! ### Texts at the ends of paths -/

theorem texts_of_mem {fields : Fields} {field : String × Json} (member : field ∈ fields) :
    field.2.texts ⊆ (Json.object fields).texts := by
  rw [Json.texts_object]
  exact fun text inside => List.mem_flatMap.mpr ⟨field, member, inside⟩

theorem texts_of_lookupKey? {fields : Fields} {key : String} {value : Json}
    (found : lookupKey? fields key = some value) :
    value.texts ⊆ (Json.object fields).texts := by
  rcases Option.or_eq_some_iff.mp found with exact | ⟨-, loose⟩
  · exact texts_of_mem (Table.mem_of_get? exact)
  · obtain ⟨field, isField, rfl⟩ := Option.map_eq_some_iff.mp loose
    exact texts_of_mem (List.mem_of_find?_eq_some isField)

theorem texts_of_follow? {value found : Json} {segments : List String}
    (followed : follow? value segments = some found) : found.texts ⊆ value.texts := by
  induction segments generalizing value with
  | nil =>
    cases followed
    exact List.Subset.refl _
  | cons segment more ih =>
    obtain ⟨fields, rfl⟩ := exists_of_follow?_cons followed
    obtain ⟨child, isChild, followed⟩ := Option.bind_eq_some_iff.mp followed
    exact List.Subset.trans (ih followed) (texts_of_lookupKey? isChild)

theorem texts_propertyOf (aliases : List String) (document : Operand) (path : String) :
    (propertyOf aliases document path).texts ⊆ document.texts := by
  unfold propertyOf
  split
  · next value =>
    split
    · next found isFound =>
      unfold valueAt? at isFound
      split at isFound
      · cases isFound
        exact List.Subset.refl _
      · exact texts_of_follow? isFound
    · exact List.nil_subset _
  · split
    · exact List.Subset.refl _
    · exact List.nil_subset _

/-! ### Meanings -/

/-- A failure is formal, or is that no number can be read from one of some texts. -/
def Expected (words : List String) (failure : EvaluationError) : Prop :=
  failure.IsFormal ∨ Blames words failure

/-- An expression means an operand made of given texts, or fails as expected, and its truth fails as
expected. -/
structure Meaning.Sound (words : List String) (meant : Meaning) : Prop where
  within : ∀ operand, meant.operand = .ok operand → operand.texts ⊆ words
  value : FailsOnly (Expected words) meant.operand
  verdict : FailsOnly (Expected words) meant.truth

section

variable {words : List String}

theorem FailsOnly.blames {α : Type} {computation : Except EvaluationError α}
    (fails : FailsOnly (Blames words) computation) : FailsOnly (Expected words) computation :=
  fails.mono fun _ => .inr

theorem FailsOnly.formal {α : Type} {computation : Except EvaluationError α}
    (fails : FailsOnly EvaluationError.IsFormal computation) :
    FailsOnly (Expected words) computation := fails.mono fun _ => .inl

theorem sound_ofOperand {operand : Operand} (within : operand.texts ⊆ words) :
    (Meaning.ofOperand operand).Sound words := by
  refine ⟨?_, failsOnly_ok _, failsOnly_ok _⟩
  rintro _ ⟨⟩
  exact within

theorem sound_ofTruth {truth : Except EvaluationError Bool}
    (fails : FailsOnly (Expected words) truth) : (Meaning.ofTruth truth).Sound words := by
  refine ⟨fun operand found => ?_, fails.map _, fails⟩
  cases truth with
  | error failure => cases found
  | ok verdict =>
    cases found
    exact List.nil_subset _

theorem binaryTruth_fails (settings : Comparison) {operator : Operator} (joint : IsJoint operator)
    {left right : Meaning} (isLeft : left.Sound words) (isRight : right.Sound words) :
    FailsOnly (Expected words) (binaryTruth settings operator left right) := by
  have compared (operator : Operator)
      (compares : ∀ x y, (settings.compare? operator x y).isSome) :
      FailsOnly (Expected words) (do
        let x ← left.operand
        let y ← right.operand
        (settings.compare? operator x y).getD (.error (.notBinary operator.symbol))) := by
    refine isLeft.value.bind fun x isX => isRight.value.bind fun y isY => ?_
    obtain ⟨verdict, found⟩ := Option.isSome_iff_exists.mp (compares x y)
    rw [found]
    exact (compare?_fails settings (isLeft.within x isX) (isRight.within y isY) found).blames
  cases operator with
  | and =>
    refine isLeft.verdict.bind fun verdict _ => ?_
    split
    · exact isRight.verdict
    · exact failsOnly_ok _
  | or =>
    refine isLeft.verdict.bind fun verdict _ => ?_
    split
    · exact failsOnly_ok _
    · exact isRight.verdict
  | between | not => exact joint.elim
  | equal => exact compared .equal fun _ _ => rfl
  | notEqual => exact compared .notEqual fun _ _ => rfl
  | greater => exact compared .greater fun _ _ => rfl
  | less => exact compared .less fun _ _ => rfl
  | greaterOrEqual => exact compared .greaterOrEqual fun _ _ => rfl
  | lessOrEqual => exact compared .lessOrEqual fun _ _ => rfl

theorem unaryTruth_fails {operand : Expr} {meant : Meaning} (sound : meant.Sound words) :
    FailsOnly (Expected words) (unaryTruth .not operand meant) := by
  have negated : FailsOnly (Expected words)
      (do negatedValue (← meant.operand) operand.text) := by
    refine sound.value.bind fun value _ => ?_
    unfold negatedValue
    split
    · exact failsOnly_ok _
    · split
      · exact failsOnly_ok _
      · exact failsOnly_error (.inl trivial)
  unfold unaryTruth
  cases operand with
  | constant | property | parameter => exact negated
  | _ => exact sound.verdict.map _

theorem withinBounds_fails {value lower upper : Operand} (withinValue : value.texts ⊆ words)
    (withinLower : lower.texts ⊆ words) (withinUpper : upper.texts ⊆ words) :
    FailsOnly (Expected words) (withinBounds value (.pair lower upper)) := by
  rw [withinBounds, Operand.elements?_pair]
  exact (between_fails withinValue withinLower withinUpper).blames

theorem sound_between {value lower upper : Meaning} (isValue : value.Sound words)
    (isLower : lower.Sound words) (isUpper : upper.Sound words) :
    let bounds : Except EvaluationError Operand := do
      return .pair (← lower.operand) (← upper.operand)
    Meaning.Sound words ⟨bounds, do withinBounds (← value.operand) (← bounds)⟩ := by
  intro bounds
  have fails : FailsOnly (Expected words) bounds :=
    isLower.value.bind fun _ _ => isUpper.value.bind fun _ _ => failsOnly_ok _
  have ends {pair : Operand} (isPair : bounds = .ok pair) :
      ∃ low high, low.texts ⊆ words ∧ high.texts ⊆ words ∧ pair = .pair low high := by
    obtain ⟨low, isLow, found⟩ := bind_eq_ok.mp isPair
    obtain ⟨high, isHigh, found⟩ := bind_eq_ok.mp found
    cases found
    exact ⟨low, high, isLower.within low isLow, isUpper.within high isHigh, rfl⟩
  refine ⟨fun pair isPair => ?_, fails, isValue.value.bind fun x isX => fails.bind ?_⟩
  · obtain ⟨low, high, withinLow, withinHigh, rfl⟩ := ends isPair
    rw [Operand.texts_pair]
    exact List.append_subset.mpr ⟨withinLow, withinHigh⟩
  · intro pair isPair
    obtain ⟨low, high, withinLow, withinHigh, rfl⟩ := ends isPair
    exact withinBounds_fails (isValue.within x isX) withinLow withinHigh

variable {scope : Scope} {document : Operand}

theorem argumentValues_fails {arguments : List Expr}
    (all : ∀ argument ∈ arguments, (meaning scope document argument).Sound words) :
    FailsOnly (Expected words) (argumentValues scope document arguments) := by
  induction arguments with
  | nil => exact failsOnly_ok _
  | cons argument more ih =>
    obtain ⟨first, others⟩ := List.forall_mem_cons.mp all
    rw [argumentValues]
    exact first.value.bind fun _ _ => (ih others).bind fun _ _ => failsOnly_ok _

/-- **A writable expression means an operand made of the texts at hand**, or fails as expected. -/
theorem sound_meaning (registered : scope.registry = .standard)
    (parameters : ∀ name value, scope.parameters.get? name = some value → value.texts ⊆ words)
    (within : document.texts ⊆ words) {expr : Expr} (writable : expr.Writable)
    (constants : expr.constants.flatMap Operand.texts ⊆ words) :
    (meaning scope document expr).Sound words := by
  induction writable with
  | constant literal =>
    rw [Expr.constants, List.flatMap_singleton] at constants
    exact sound_ofOperand constants
  | property isPath =>
    exact sound_ofOperand (List.Subset.trans (texts_propertyOf _ _ _) within)
  | @parameter name position isName =>
    refine sound_ofOperand ?_
    unfold parameterOf
    split
    · next value found => exact parameters name value found
    · exact List.nil_subset _
  | binary isLeft joint isRight ihLeft ihRight =>
    rw [Expr.constants, List.flatMap_append, List.append_subset] at constants
    exact sound_ofTruth (binaryTruth_fails _ joint (ihLeft constants.1) (ihRight constants.2))
  | not isOperand ih => exact sound_ofTruth (unaryTruth_fails (ih constants))
  | @call name arguments position plain all ih =>
    rw [Expr.constants, Expr.argumentConstants_eq] at constants
    have within (argument : Expr) (member : argument ∈ arguments) :
        argument.constants.flatMap Operand.texts ⊆ words := by
      rw [List.flatMap_assoc] at constants
      exact fun text inside => constants (List.mem_flatMap.mpr ⟨argument, member, inside⟩)
    refine sound_ofTruth (.bind (argumentValues_fails fun argument member =>
      ih argument member (within argument member)) fun values _ => ?_)
    rw [registered]
    exact (standard_call_fails name values).formal
  | between isValue isLower isUpper ihValue ihLower ihUpper =>
    rw [Expr.constants, List.flatMap_append, List.flatMap_append, List.append_subset,
      List.append_subset] at constants
    exact sound_between (ihValue constants.1) (ihLower constants.2.1) (ihUpper constants.2.2)

/-! ### Executions -/

theorem filterDocuments_fails {condition : Expr} {documents : List Fields}
    (sound : ∀ document ∈ documents,
      (meaning scope (.json (.object document)) condition).Sound words) :
    FailsOnly (Expected words) (filterDocuments scope condition documents) := by
  induction documents with
  | nil => exact failsOnly_ok _
  | cons document more ih =>
    obtain ⟨first, others⟩ := List.forall_mem_cons.mp sound
    rw [filterDocuments]
    exact first.verdict.bind fun _ _ => (ih others).bind fun _ _ => failsOnly_ok _

end

namespace Query

/-- The texts that an execution of a query can meet: those of its constants, of the documents and of
the parameters. -/
def words (query : Query) (documents : List Fields) (assigned : List (String × Json)) :
    List String :=
  query.constants.flatMap Operand.texts ++
    (documents.flatMap (fun document => (Json.object document).texts) ++
      assigned.flatMap fun entry => entry.2.texts)

theorem executeIn_fails {query : Query} (writable : query.Writable) {scope : Scope}
    (registered : scope.registry = .standard) {words : List String} {documents : List Fields}
    (constants : query.constants.flatMap Operand.texts ⊆ words)
    (within : ∀ document ∈ documents, (Json.object document).texts ⊆ words)
    (parameters : ∀ name value, scope.parameters.get? name = some value → value.texts ⊆ words) :
    FailsOnly (Expected words) (query.executeIn scope documents) := by
  refine FailsOnly.bind ?_ fun _ _ => failsOnly_ok _
  unfold matching
  split
  · next condition isCondition =>
    rw [Query.constants, isCondition] at constants
    refine filterDocuments_fails fun document member => ?_
    have inside : (Operand.json (.object document)).texts ⊆ words := within document member
    exact sound_meaning registered parameters inside (writable.condition condition isCondition)
      constants
  · exact failsOnly_ok _

/-- **A query that was read fails for few causes.** With parameters that bind names to values it has
an answer, or a negated value is no truth value, a function is unknown or is called with a wrong
number of arguments, or a number has to be read from a text with an information separator. A number
is read from everything but such texts. -/
theorem execute_fails {text : String} {query : Query} (accepted : read text = .ok query)
    {given : Json} {assigned : List (String × Json)}
    (isAssigned : assignments? given = some assigned) (named : ∀ entry ∈ assigned, IsNamed entry.1)
    (settings : QuerySettings) (documents : List Fields) :
    ((∃ answer, query.execute settings .standard given documents = .ok answer) ∨
      ∃ cause, query.execute settings .standard given documents = .error (.evaluation cause) ∧
        (cause.IsFormal ∨ ∃ word ∈ query.words documents assigned,
          IsSeparated word ∧ cause = .unreadableNumber word)) ∧
    ∀ (operand : Operand) (failure : EvaluationError), operand.toNumber? = .error failure ↔
      ∃ word, operand = .json (.string word) ∧ IsSeparated word ∧
        failure = .unreadableNumber word := by
  have bound := bindParameters_eq_ok.mpr ⟨assigned, isAssigned, named, rfl⟩
  have constants : query.constants.flatMap Operand.texts ⊆ query.words documents assigned :=
    List.subset_append_left _ _
  have within (document : Fields) (member : document ∈ documents) :
      (Json.object document).texts ⊆ query.words documents assigned := fun word inside =>
    List.mem_append_right _ (List.mem_append_left _
      (List.mem_flatMap.mpr ⟨document, member, inside⟩))
  have parameters (name : String) (value : Json)
      (found : (Table.ofPairs (assigned.map boundEntry)).get? name = some value) :
      value.texts ⊆ query.words documents assigned := by
    obtain ⟨entry, member, isEntry⟩ := List.mem_map.mp (Table.mem_of_get?_ofPairs found)
    cases isEntry
    exact fun word inside => List.mem_append_right _ (List.mem_append_right _
      (List.mem_flatMap.mpr ⟨entry, member, inside⟩))
  refine ⟨?_, fun _ _ => toNumber?_eq_error⟩
  rw [execute_eq_mapError bound]
  generalize isOutcome : query.executeIn _ documents = outcome
  cases outcome with
  | ok answer => exact .inl ⟨answer, rfl⟩
  | error cause =>
    exact .inr ⟨cause, rfl, executeIn_fails (writable_of_read accepted) rfl constants within
      parameters cause isOutcome⟩

/-- A document with a number behind an information separator. -/
def separatedDocument : Fields := [("id", .string "1"), ("x", .string "\x1c1")]

/-- A query with a parameter. -/
theorem execute_fails_above_parameter :
    ∃ query, read "SELECT * FROM c WHERE c.x > @low" = .ok query ∧
      ((∃ answer, query.execute {} .standard (.object [("@low", .int 5)]) [separatedDocument] =
        .ok answer) ∨
      ∃ cause, query.execute {} .standard (.object [("@low", .int 5)]) [separatedDocument] =
          .error (.evaluation cause) ∧
        (cause.IsFormal ∨ ∃ word ∈ query.words [separatedDocument] [("@low", .int 5)],
          IsSeparated word ∧ cause = .unreadableNumber word)) := by
  obtain ⟨query, accepted, -⟩ := exists_read (fun _ => True)
    (show (read "SELECT * FROM c WHERE c.x > @low").toOption.any _ by decide +kernel)
  have named : IsNamed "@low" := ⟨'l', by decide +kernel, by decide⟩
  exact ⟨query, accepted, (execute_fails accepted rfl (List.forall_mem_singleton.mpr named) {}
    [separatedDocument]).1⟩

/-- A comparison with a text that is no number although it has the form of one. -/
theorem execute_separated :
    ∃ query, read "SELECT * FROM c WHERE c.x > 5" = .ok query ∧
      ∃ cause, query.execute {} .standard .null [separatedDocument] = .error (.evaluation cause) ∧
        ¬ cause.IsFormal := by
  obtain ⟨query, accepted, failed⟩ := exists_read
    (fun query => query.execute {} .standard .null [separatedDocument] matches
      .error (.evaluation (.unreadableNumber _)))
    (show (read "SELECT * FROM c WHERE c.x > 5").toOption.any _ by decide +kernel)
  refine ⟨query, accepted, ?_⟩
  split at failed
  · next word refused => exact ⟨_, refused, id⟩
  · cases failed

end Query

end DocQuery
