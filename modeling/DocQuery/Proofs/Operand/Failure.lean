/-
**Comparisons and functions fail for one cause only.**

* `IsSeparated`: a text is a numeral but for white space around it, and has one of the information
  separators. No number can be read from such a text;
* `toNumber?_eq_error`: a number is read from all operands but from such texts;
* `compare?_fails`, `between_fails`: a comparison of operands fails only if a number has to be read
  from such a text among them;
* `standard_call_fails`: a call fails only if the function is not known or takes another number of
  arguments.

Truth values, texts and instants are read from all operands without a failure, and all operands are
put in order.
-/

import DocQuery.Operand.Comparison
import DocQuery.Operand.Function
import DocQuery.Proofs.Except

namespace DocQuery

/-! ### Texts -/

namespace Json

mutual

/-- The texts in a value, wherever they are. -/
def texts : Json → List String
  | .string text => [text]
  | .array items => textsOfItems items
  | .object fields => textsOfFields fields
  | _ => []

/-- The texts in some items. -/
def textsOfItems : List Json → List String
  | [] => []
  | item :: more => texts item ++ textsOfItems more

/-- The texts in the values of some fields. -/
def textsOfFields : List (String × Json) → List String
  | [] => []
  | (_, value) :: more => texts value ++ textsOfFields more

end

theorem texts_array (items : List Json) : texts (.array items) = items.flatMap texts := by
  rw [texts]
  induction items with
  | nil => rfl
  | cons item more ih => rw [textsOfItems, ih, List.flatMap_cons]

theorem texts_object (fields : Fields) :
    texts (.object fields) = fields.flatMap fun field => field.2.texts := by
  rw [texts]
  induction fields with
  | nil => rfl
  | cons field more ih => rw [textsOfFields, ih, List.flatMap_cons]

end Json

namespace Operand

/-- The texts in an operand, wherever they are. -/
def texts : Operand → List String
  | .json value => value.texts
  | .range lower upper => lower.texts ++ upper.texts
  | .missing | .instant _ => []

@[simp] theorem texts_pair (lower upper : Operand) :
    (pair lower upper).texts = lower.texts ++ upper.texts := by
  unfold pair
  split
  · rw [texts, Json.texts_array, List.flatMap_cons, List.flatMap_singleton, texts, texts]
  · rfl

@[simp] theorem elements?_pair (lower upper : Operand) :
    (pair lower upper).elements? = some [lower, upper] := by
  unfold pair
  split <;> rfl

end Operand

/-! ### Numbers -/

/-- A text is a numeral with white space around it, but some of it is no space around a number. -/
def IsSeparated (text : String) : Prop :=
  (numeral? (trimBlanks text.toList)).isSome ∧ text.toList.any isInformationSeparator

instance : DecidablePred IsSeparated := fun _ => inferInstanceAs (Decidable (_ ∧ _))

theorem textNumber?_eq_error {text : String} {failure : EvaluationError} :
    textNumber? text = .error failure ↔ IsSeparated text ∧ failure = .unreadableNumber text := by
  unfold textNumber? IsSeparated
  cases numeral? (trimBlanks text.toList) with
  | none => simp
  | some found =>
    by_cases separated : text.toList.any isInformationSeparator <;> simp [separated, eq_comm]

/-- A number is read from every operand but from such texts. -/
theorem toNumber?_eq_error {operand : Operand} {failure : EvaluationError} :
    operand.toNumber? = .error failure ↔
      ∃ text, operand = .json (.string text) ∧ IsSeparated text ∧
        failure = .unreadableNumber text := by
  constructor
  · intro refused
    unfold Operand.toNumber? at refused
    split at refused
    · cases refused
    · cases refused
    · next text => exact ⟨text, rfl, textNumber?_eq_error.mp refused⟩
    · cases refused
  · rintro ⟨text, rfl, separated⟩
    exact textNumber?_eq_error.mpr separated

/-- A failure is that no number can be read from one of some texts. -/
def Blames (words : List String) (failure : EvaluationError) : Prop :=
  ∃ word ∈ words, IsSeparated word ∧ failure = .unreadableNumber word

section

variable {words : List String}

theorem toNumber?_fails {operand : Operand} (within : operand.texts ⊆ words) :
    FailsOnly (Blames words) operand.toNumber? := by
  intro failure refused
  obtain ⟨text, rfl, separated, rfl⟩ := toNumber?_eq_error.mp refused
  refine ⟨text, within ?_, separated, rfl⟩
  rw [Operand.texts, Json.texts]
  exact List.mem_singleton_self text

/-! ### Comparisons -/

variable {left right : Operand} (settings : Comparison)

theorem equal_fails (withinLeft : left.texts ⊆ words) (withinRight : right.texts ⊆ words) :
    FailsOnly (Blames words) (settings.equal left right) := by
  unfold Comparison.equal
  split
  · exact failsOnly_ok _
  · exact failsOnly_ok _
  · exact failsOnly_ok _
  · refine (toNumber?_fails withinLeft).bind fun x _ => ?_
    refine (toNumber?_fails withinRight).bind fun y _ => ?_
    split <;> exact failsOnly_ok _

theorem ordering_fails (withinLeft : left.texts ⊆ words) (withinRight : right.texts ⊆ words) :
    FailsOnly (Blames words) (settings.ordering left right) := by
  unfold Comparison.ordering
  split
  · exact failsOnly_ok _
  · refine (toNumber?_fails withinLeft).bind fun x _ => ?_
    refine (toNumber?_fails withinRight).bind fun y _ => ?_
    split <;> exact failsOnly_ok _

theorem compare?_fails (withinLeft : left.texts ⊆ words) (withinRight : right.texts ⊆ words)
    {operator : Operator} {verdict : Except EvaluationError Bool}
    (found : settings.compare? operator left right = some verdict) :
    FailsOnly (Blames words) verdict := by
  have equal := equal_fails settings withinLeft withinRight
  have ordered (accepts : Ordering → Bool) : FailsOnly (Blames words) (do
      return ((← settings.ordering left right).map accepts).getD false) :=
    (ordering_fails settings withinLeft withinRight).bind fun _ _ => failsOnly_ok _
  unfold Comparison.compare? at found
  split at found <;> cases found
  · exact equal
  · exact equal.map _
  · exact ordered _
  · exact ordered _
  · exact ordered _
  · exact ordered _

theorem between_fails {value lower upper : Operand} (withinValue : value.texts ⊆ words)
    (withinLower : lower.texts ⊆ words) (withinUpper : upper.texts ⊆ words) :
    FailsOnly (Blames words) (Comparison.between value lower upper) := by
  unfold Comparison.between
  split
  · exact failsOnly_ok _
  · refine (toNumber?_fails withinValue).bind fun x _ => ?_
    refine (toNumber?_fails withinLower).bind fun low _ => ?_
    refine (toNumber?_fails withinUpper).bind fun high _ => ?_
    split
    · exact failsOnly_ok _
    · split <;> exact failsOnly_ok _

end

/-! ### Calls -/

/-- A failure is one of those that the conditions of a query can run into by their form: a negated
value that is no truth value, an unknown function, or a wrong number of arguments. -/
def EvaluationError.IsFormal : EvaluationError → Prop
  | .notBoolean .. | .unknownFunction _ | .argumentCount .. => True
  | _ => False

/-- A function has a result for as many arguments as its arity allows. -/
theorem Builtin.exists_apply (builtin : Builtin) {arguments : List Operand}
    (accepts : builtin.arity.accepts arguments.length) :
    ∃ verdict, builtin.apply arguments = some verdict := by
  cases builtin with
  | contains | startsWith =>
    match arguments, accepts with
    | subject :: pattern :: flags, _ => exact ⟨_, rfl⟩
  | arrayContains =>
    match arguments, accepts with
    | [collection, wanted], _ => exact ⟨_, rfl⟩
  | isNull | isDefined =>
    match arguments, accepts with
    | [operand], _ => exact ⟨_, rfl⟩

theorem standard_call_fails (name : String) (arguments : List Operand) :
    FailsOnly EvaluationError.IsFormal (Registry.standard.call name arguments) := by
  unfold Registry.call
  split
  · exact failsOnly_error trivial
  · next registration found =>
    obtain ⟨builtin, -, rfl⟩ := List.mem_map.mp (List.mem_of_find?_eq_some found)
    split
    · next accepts =>
      obtain ⟨verdict, applied⟩ := builtin.exists_apply accepts
      simp only [applied]
      exact failsOnly_ok _
    · exact failsOnly_error trivial

end DocQuery
