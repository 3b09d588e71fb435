/-
**Conditions as values.**

A condition can be compared with `true` and with `false`. Its operand is then its truth, unless it
is a range test, whose operand is the pair of its bounds.

* `holds_is`, `holds_between_is`: whether a condition holds that is compared with a truth value;
* `filterDocuments_eq_map`: a filter by a function of a truth keeps the documents for which the
  function gives `true`, and fails as the filter by the truth does;
* `Query.answerTo_of_read`: a text in which the condition is compared so has the answer to it;
* `Query.execute_is`: what becomes of the answers to a query if its condition is compared so;
* `Query.execute_is_refuted`: a range test is not equal to its truth.
-/

import DocQuery.Proofs.Operand.Failure
import DocQuery.Proofs.Query.Compared
import DocQuery.Proofs.Query.Equality
import DocQuery.Proofs.Query.Execution

namespace DocQuery

namespace Comparison

variable (settings : Comparison)

/-- No truth value equals a pair of bounds. -/
theorem equal_pair (lower upper : Operand) (truth : Bool) :
    settings.equal (.pair lower upper) (.json (.bool truth)) = .ok false := by
  unfold Operand.pair
  split <;> rfl

end Comparison

/-! ### Conditions that are compared with a truth value -/

/-- The operand of an expression is its truth. -/
def Expr.isVerdict : Expr → Bool
  | .binary .. | .unary .. | .call .. => true
  | _ => false

section

variable (scope : Scope) (document : Operand) (sign literal : Position)

theorem operand_of_isVerdict {condition : Expr} (verdict : condition.isVerdict) :
    (meaning scope document condition).operand =
      (fun truth => .json (.bool truth)) <$> (meaning scope document condition).truth := by
  cases condition with
  | binary | unary | call => rfl
  | _ => cases verdict

/-- A condition whose operand is its truth equals a truth value if the truth does. -/
theorem holds_is {condition : Expr} (verdict : condition.isVerdict) (truth : Bool) :
    holds scope (condition.is truth sign literal) document =
      (· == truth) <$> holds scope condition document := by
  have operand := operand_of_isVerdict scope document verdict
  show (do
    let leftValue ← (meaning scope document condition).operand
    let rightValue ← Except.ok (Operand.json (.bool truth))
    scope.comparison.equal leftValue rightValue) = _
  rw [operand, holds]
  cases (meaning scope document condition).truth <;> rfl

/-- A range test equals no truth value, but its bounds are evaluated. -/
theorem holds_between_is (value lower upper : Expr) (position : Position) (truth : Bool) :
    holds scope ((Expr.between value lower upper position).is truth sign literal) document = (do
      let _ ← (meaning scope document lower).operand
      let _ ← (meaning scope document upper).operand
      return false) := by
  show (do
    let leftValue ← (do
      return Operand.pair (← (meaning scope document lower).operand)
        (← (meaning scope document upper).operand))
    let rightValue ← Except.ok (Operand.json (.bool truth))
    scope.comparison.equal leftValue rightValue) = _
  cases (meaning scope document lower).operand with
  | error cause => rfl
  | ok low =>
    cases (meaning scope document upper).operand with
    | error cause => rfl
    | ok high => exact scope.comparison.equal_pair low high truth

theorem holds_between_is_fails (value lower upper : Expr) (position : Position) (truth : Bool) :
    (∃ cause, holds scope ((Expr.between value lower upper position).is truth sign literal)
        document = .error cause) ↔
      ∃ bound ∈ [lower, upper], ∃ cause,
        (meaning scope document bound).operand = .error cause := by
  rw [holds_between_is]
  simp only [List.mem_cons, List.not_mem_nil, or_false, exists_eq_or_imp, exists_eq_left]
  cases (meaning scope document lower).operand with
  | error cause => exact ⟨fun _ => .inl ⟨cause, rfl⟩, fun _ => ⟨cause, rfl⟩⟩
  | ok low =>
    cases (meaning scope document upper).operand with
    | error cause => exact ⟨fun _ => .inr ⟨cause, rfl⟩, fun _ => ⟨cause, rfl⟩⟩
    | ok high =>
      constructor
      · rintro ⟨_, ⟨⟩⟩
      · rintro (⟨_, ⟨⟩⟩ | ⟨_, ⟨⟩⟩)

end

/-! ### Filters -/

section

variable {scope : Scope} {condition condition' : Expr}

/-- **A filter by a function of a truth** keeps the documents for which the function gives `true`,
and fails as the filter by the truth does. -/
theorem filterDocuments_eq_map {change : Bool → Bool}
    (same : ∀ document, holds scope condition' document = change <$> holds scope condition document)
    (documents : List Fields) :
    filterDocuments scope condition' documents =
      (fun _ => documents.filter fun document => change (satisfies scope condition document)) <$>
        filterDocuments scope condition documents := by
  induction documents with
  | nil => rfl
  | cons document more ih =>
    rw [filterDocuments, filterDocuments, same, ih, List.filter_cons, satisfies]
    cases holds scope condition (.json (.object document)) with
    | error cause => rfl
    | ok truth =>
      cases filterDocuments scope condition more with
      | error cause => rfl
      | ok others => rfl

/-- A filter by a condition that holds for no document keeps none. -/
theorem filterDocuments_eq_nil
    (never : ∀ document, holds scope condition document ≠ .ok true) {documents kept : List Fields}
    (found : filterDocuments scope condition documents = .ok kept) : kept = [] := by
  obtain ⟨decided, rfl⟩ := filterDocuments_eq_ok.mp found
  refine List.filter_eq_nil_iff.mpr fun document member kept => ?_
  obtain ⟨truth, verdict⟩ := decided document member
  rw [satisfies, verdict] at kept
  obtain rfl : truth = true := kept
  exact never _ verdict

/-- A filter fails exactly if the condition has no truth for one of the documents. -/
theorem filterDocuments_refused {documents : List Fields} :
    (∃ cause, filterDocuments scope condition documents = .error cause) ↔
      ∃ document ∈ documents, ∃ cause,
        holds scope condition (.json (.object document)) = .error cause := by
  constructor
  · rintro ⟨cause, failed⟩
    refine Classical.byContradiction fun none => ?_
    have decided (document : Fields) (member : document ∈ documents) : ∃ truth,
        holds scope condition (.json (.object document)) = .ok truth := by
      cases verdict : holds scope condition (.json (.object document)) with
      | error cause => exact absurd ⟨document, member, cause, verdict⟩ none
      | ok truth => exact ⟨truth, rfl⟩
    rw [filterDocuments_eq_ok.mpr ⟨decided, rfl⟩] at failed
    cases failed
  · rintro ⟨document, member, cause, failed⟩
    cases found : filterDocuments scope condition documents with
    | error cause => exact ⟨cause, rfl⟩
    | ok kept =>
      obtain ⟨truth, verdict⟩ := (filterDocuments_eq_ok.mp found).1 document member
      rw [failed] at verdict
      cases verdict

end

/-! ### Answers -/

namespace Query

section

variable (query : Query) (settings : QuerySettings) (registry : Registry) (given : Json)
  (documents : List Fields)

/-- The answer to a query with another condition. -/
def answerTo (condition : Expr) : Except ExecutionError (List Fields) :=
  { query with condition := some condition }.execute settings registry given documents

theorem answerTo_eq (condition : Expr) :
    query.answerTo settings registry given documents condition =
      match settings.scope registry (some query.source) given with
      | .error cause => .error (.parameters cause)
      | .ok scope => (query.arranged scope.aliases <$>
          filterDocuments scope condition documents).mapError .evaluation := by
  unfold answerTo execute
  cases settings.scope registry (some query.source) given with
  | error cause => rfl
  | ok scope =>
    simp only [executeIn, matching]
    cases filterDocuments scope condition documents <;> rfl

/-- A condition that is compared with `true` has the answer of its own, compared with `false` that
for the other documents, and both fail as it does itself. -/
structure ComparesTruth (condition : Expr) (compared : Bool → Expr) : Prop where
  same : query.answerTo settings registry given documents (compared true) =
    query.answerTo settings registry given documents condition
  fails : ∀ cause, query.answerTo settings registry given documents condition = .error cause →
    query.answerTo settings registry given documents (compared false) = .error cause
  others : ∀ found, query.answerTo settings registry given documents condition = .ok found →
    ∃ scope, settings.scope registry (some query.source) given = .ok scope ∧
      found = query.arranged scope.aliases (documents.filter (satisfies scope condition)) ∧
      query.answerTo settings registry given documents (compared false) =
        .ok (query.arranged scope.aliases
          (documents.filter fun document => !satisfies scope condition document))

/-- A range test that is compared with a truth value has an empty answer. It fails exactly if the
parameters are not accepted or a bound has no value for one of the documents. -/
structure ComparesBounds (lower upper : Expr) (compared : Bool → Expr) : Prop where
  empty : ∀ truth found,
    query.answerTo settings registry given documents (compared truth) = .ok found → found = []
  fails : ∀ truth,
    (∃ cause, query.answerTo settings registry given documents (compared truth) = .error cause) ↔
      (∃ cause, settings.scope registry (some query.source) given = .error cause) ∨
      ∃ scope, settings.scope registry (some query.source) given = .ok scope ∧
        ∃ document ∈ documents, ∃ bound ∈ [lower, upper], ∃ cause,
          (meaning scope (.json (.object document)) bound).operand = .error cause

variable {query settings registry given documents}

/-- A condition whose truth is a function of that of another one has the answer for the documents
for which the function gives `true`, or fails as the other one does. -/
theorem answerTo_change {condition condition' : Expr} {change : Bool → Bool}
    (same : ∀ scope document,
      holds scope condition' document = change <$> holds scope condition document) :
    (∃ cause, query.answerTo settings registry given documents condition = .error cause ∧
      query.answerTo settings registry given documents condition' = .error cause) ∨
    ∃ scope, settings.scope registry (some query.source) given = .ok scope ∧
      query.answerTo settings registry given documents condition =
        .ok (query.arranged scope.aliases (documents.filter (satisfies scope condition))) ∧
      query.answerTo settings registry given documents condition' =
        .ok (query.arranged scope.aliases
          (documents.filter fun document => change (satisfies scope condition document))) := by
  rw [answerTo_eq, answerTo_eq]
  cases settings.scope registry (some query.source) given with
  | error cause => exact .inl ⟨_, rfl, rfl⟩
  | ok scope =>
    dsimp only
    rw [filterDocuments_eq_map (same scope) documents]
    cases kept : filterDocuments scope condition documents with
    | error cause => exact .inl ⟨_, rfl, rfl⟩
    | ok found =>
      obtain ⟨-, rfl⟩ := filterDocuments_eq_ok.mp kept
      exact .inr ⟨scope, rfl, rfl, rfl⟩

/-- **A condition whose operand is its truth** can be compared with both truth values. -/
theorem comparesTruth_is {condition : Expr} (verdict : condition.isVerdict)
    (sign literal : Position) :
    query.ComparesTruth settings registry given documents condition
      fun truth => condition.is truth sign literal := by
  have outcome (truth : Bool) := @answerTo_change query settings registry given documents _ _ _
    fun scope document => holds_is scope document sign literal verdict truth
  constructor
  · rcases outcome true with ⟨cause, own, compared⟩ | ⟨scope, -, own, compared⟩
    · rw [own, compared]
    · simp only [own, compared, beq_true]
  · intro cause failed
    rcases outcome false with ⟨cause', own, compared⟩ | ⟨scope, -, own, -⟩
    · rw [compared, ← own, failed]
    · rw [own] at failed
      cases failed
  · intro found answered
    rcases outcome false with ⟨cause, own, -⟩ | ⟨scope, isScope, own, compared⟩
    · rw [own] at answered
      cases answered
    · rw [own] at answered
      cases answered
      simp only [beq_false] at compared
      exact ⟨scope, isScope, rfl, compared⟩

/-- A query fails exactly if its parameters are not accepted, or its condition has no truth for one
of the documents. -/
theorem answerTo_fails {condition : Expr} :
    (∃ cause, query.answerTo settings registry given documents condition = .error cause) ↔
      (∃ cause, settings.scope registry (some query.source) given = .error cause) ∨
      ∃ scope, settings.scope registry (some query.source) given = .ok scope ∧
        ∃ document ∈ documents, ∃ cause,
          holds scope condition (.json (.object document)) = .error cause := by
  rw [answerTo_eq]
  cases settings.scope registry (some query.source) given with
  | error cause => exact ⟨fun _ => .inl ⟨cause, rfl⟩, fun _ => ⟨_, rfl⟩⟩
  | ok scope =>
    dsimp only
    cases filtered : filterDocuments scope condition documents with
    | error cause =>
      exact ⟨fun _ => .inr ⟨scope, rfl, filterDocuments_refused.mp ⟨cause, filtered⟩⟩,
        fun _ => ⟨_, rfl⟩⟩
    | ok kept =>
      constructor
      · rintro ⟨_, ⟨⟩⟩
      · rintro (⟨_, ⟨⟩⟩ | ⟨_, ⟨⟩, failed⟩)
        obtain ⟨cause, refused⟩ := filterDocuments_refused.mpr failed
        rw [filtered] at refused
        cases refused

theorem arranged_nil (aliases : List String) : query.arranged aliases [] = [] := by
  obtain ⟨selection, top, source, condition, order, limit⟩ := query
  cases order <;> cases top <;> cases limit <;> simp [arranged, orderDocuments, takeAtMost]

/-- A condition that holds for no document has an empty answer. -/
theorem answerTo_eq_nil {condition : Expr}
    (never : ∀ scope document, holds scope condition document ≠ .ok true) {found : List Fields}
    (answered : query.answerTo settings registry given documents condition = .ok found) :
    found = [] := by
  rw [answerTo_eq] at answered
  cases isScope : settings.scope registry (some query.source) given with
  | error cause =>
    rw [isScope] at answered
    cases answered
  | ok scope =>
    rw [isScope] at answered
    cases filtered : filterDocuments scope condition documents with
    | error cause =>
      simp only [filtered] at answered
      cases answered
    | ok kept =>
      simp only [filtered, filterDocuments_eq_nil (never scope) filtered] at answered
      cases answered
      exact arranged_nil scope.aliases

/-- **A range test** is compared as the pair of its bounds. -/
theorem comparesBounds_is (value lower upper : Expr) (position sign literal : Position) :
    query.ComparesBounds settings registry given documents lower upper
      fun truth => (Expr.between value lower upper position).is truth sign literal := by
  constructor
  · intro truth found answered
    refine answerTo_eq_nil (fun scope document => ?_) answered
    rw [holds_between_is]
    cases (meaning scope document lower).operand with
    | error cause => exact nofun
    | ok low => cases (meaning scope document upper).operand <;> exact nofun
  · intro truth
    simp only [answerTo_fails, holds_between_is_fails]

/-- **A text in which the condition is compared** with a truth value is read as a query with the
answer to the condition that is compared. -/
theorem answerTo_of_read {text : String} (accepted : read text = .ok query) {condition : Expr}
    (asked : query.condition = some condition) (sign literal : Position) :
    ∃ front middle back, text.toList = front ++ (middle ++ back) ∧ ∀ truth, ∃ other,
      read (String.ofList (comparedText front middle back truth)) = .ok other ∧
      other.execute settings registry given documents =
        query.answerTo settings registry given documents (condition.is truth sign literal) := by
  obtain ⟨front, middle, back, split, compared⟩ := read_is accepted asked
  refine ⟨front, middle, back, split, fun truth => ?_⟩
  obtain ⟨other, isOther, same⟩ := compared truth
  refine ⟨other, isOther, ?_⟩
  rw [← execute_unplaced other, same]
  exact execute_unplaced { query with condition := some (condition.is truth sign literal) } settings
    registry given documents

/-- **A condition compared with a truth value.** If its value is its truth, then it has the answer
of its own with `true`, that for the other documents with `false`, and fails as it does itself. A
range test, whose value is the pair of its bounds, is equal to neither. The condition of a text is
compared by parentheses around it and the comparison behind them. -/
theorem execute_is (query : Query) (settings : QuerySettings) (registry : Registry) (given : Json)
    (documents : List Fields) (condition : Expr) (sign literal : Position) :
    (condition.isVerdict → query.ComparesTruth settings registry given documents condition
      fun truth => condition.is truth sign literal) ∧
    (∀ value lower upper position, condition = .between value lower upper position →
      query.ComparesBounds settings registry given documents lower upper
        fun truth => condition.is truth sign literal) ∧
    ∀ text, read text = .ok query → query.condition = some condition →
      query.execute settings registry given documents =
        query.answerTo settings registry given documents condition ∧
      ∃ front middle back, text.toList = front ++ (middle ++ back) ∧ ∀ truth, ∃ other,
        read (String.ofList (comparedText front middle back truth)) = .ok other ∧
        other.execute settings registry given documents =
          query.answerTo settings registry given documents (condition.is truth sign literal) := by
  refine ⟨fun verdict => comparesTruth_is verdict sign literal, ?_, fun text accepted asked => ?_⟩
  · rintro value lower upper position rfl
    exact comparesBounds_is value lower upper position sign literal
  · exact ⟨by rw [answerTo, ← asked], answerTo_of_read accepted asked sign literal⟩

end

/-- A document with a number. -/
def threeDocument : Fields := [("id", .string "1"), ("x", .int 3)]

/-- A query whose condition is given beside it. -/
def everyDocument : Query := ⟨.all, none, ⟨"c", none⟩, none, none, none⟩

/-- A negation, whose value is its truth, and a range test. The condition of a text is compared. -/
theorem execute_is_both :
    let negated : Expr := .unary .not (.property "c.a" .origin) .origin
    let ranged : Expr := .between (.property "c.x" .origin) (.constant (.json (.int 1)) .origin)
      (.parameter "upper" .origin) .origin
    negated.isVerdict ∧
      everyDocument.ComparesTruth {} .standard .null [threeDocument] negated
        (fun truth => negated.is truth .origin .origin) ∧
      everyDocument.ComparesBounds {} .standard .null [threeDocument]
        (.constant (.json (.int 1)) .origin) (.parameter "upper" .origin)
        (fun truth => ranged.is truth .origin .origin) ∧
      ∃ query condition, read "SELECT * FROM c WHERE NOT c.a" = .ok query ∧
        query.condition = some condition ∧ condition.isVerdict ∧
        query.ComparesTruth {} .standard .null [threeDocument] condition
          (fun truth => condition.is truth .origin .origin) ∧
        ∃ front middle back,
          "SELECT * FROM c WHERE NOT c.a".toList = front ++ (middle ++ back) ∧ ∀ truth, ∃ other,
            read (String.ofList (comparedText front middle back truth)) = .ok other ∧
            other.execute {} .standard .null [threeDocument] =
              query.answerTo {} .standard .null [threeDocument]
                (condition.is truth .origin .origin) := by
  intro negated ranged
  have asked := execute_is everyDocument {} .standard .null [threeDocument]
  refine ⟨rfl, (asked negated .origin .origin).1 rfl,
    (asked ranged .origin .origin).2.1 _ _ _ _ rfl, ?_⟩
  obtain ⟨query, accepted, holds⟩ := exists_of_any
    (show (read "SELECT * FROM c WHERE NOT c.a").toOption.any
      (fun query => query.condition.any Expr.isVerdict) by decide +kernel)
  obtain ⟨condition, isCondition, verdict⟩ := (Option.any_eq_true _ _).mp holds
  have compared := execute_is query {} .standard .null [threeDocument] condition .origin .origin
  exact ⟨query, condition, accepted, isCondition, verdict, compared.1 verdict,
    (compared.2.2 _ accepted isCondition).2⟩

/-- A document in a range is found by the range test, but not if it is compared with `true`. -/
theorem execute_is_refuted :
    ∃ query other, read "SELECT * FROM c WHERE c.x BETWEEN 1 AND 5" = .ok query ∧
      read "SELECT * FROM c WHERE (c.x BETWEEN 1 AND 5) = true" = .ok other ∧
      (query.execute {} .standard .null [threeDocument]).toOption.map List.length = some 1 ∧
      (other.execute {} .standard .null [threeDocument]).toOption.map List.length = some 0 := by
  obtain ⟨query, other, accepted, accepted', lengths⟩ := exists_read_two
    (fun query other =>
      (query.execute {} .standard .null [threeDocument]).toOption.map List.length == some 1 &&
        (other.execute {} .standard .null [threeDocument]).toOption.map List.length == some 0)
    (show (read "SELECT * FROM c WHERE c.x BETWEEN 1 AND 5").toOption.any (fun query =>
      (read "SELECT * FROM c WHERE (c.x BETWEEN 1 AND 5) = true").toOption.any _) by
        decide +kernel)
  obtain ⟨own, compared⟩ := Bool.and_eq_true_iff.mp lengths
  exact ⟨query, other, accepted, accepted', eq_of_beq own, eq_of_beq compared⟩

end Query

end DocQuery
