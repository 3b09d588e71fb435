/-
**The text does not guide the parser.**

The parser uses the text for the names behind points only, and no decision depends on a name. Two
parsers of the same tokens, with different texts or without one, therefore take the same tokens or
fail alike.

* `InStep`: two readers leave the same tokens or fail alike, with one lemma for each way in which
  readers are put together: `InStep.refl`, `InStep.look`, `InStep.take`, `InStep.bind`;
* `inStep_condition`, `inStep_query`: the parsers of conditions and of queries are in step, one
  lemma for each part;
* `query_fails_alike`: without the text the parser fails exactly if it fails with it, and alike.
-/

import DocQuery.Proofs.Query.Reader

namespace DocQuery

namespace Parser

open Grammar

/-! ### Readers in step -/

/-- Two readers leave the same tokens or fail alike. -/
def InStep {α β : Type} (reader : Reader α) (other : Reader β) (here : List Token) : Prop :=
  (reader here).map Prod.snd = (other here).map Prod.snd

namespace InStep

variable {α α' β β' γ : Type} {reader : Reader α} {other : Reader α'} {here : List Token}

theorem refl (reader : Reader α) (here : List Token) : InStep reader reader here := rfl

/-- Readers in step stay so with readers behind them that are in step on what is left. -/
theorem bind (inStep : InStep reader other here) {next : α → Reader β} {next' : α' → Reader β'}
    (behind : ∀ found found' rest, reader here = .ok (found, rest) →
      InStep (next found) (next' found') rest) :
    InStep (reader >>= next) (other >>= next') here := by
  show (reader here >>= fun found => next found.1 found.2).map _ =
    (other here >>= fun found => next' found.1 found.2).map _
  rw [InStep] at inStep
  cases taken : reader here with
  | error failure =>
    rw [taken] at inStep
    cases taken' : other here with
    | error failure' =>
      rw [taken'] at inStep
      cases inStep
      rfl
    | ok found' =>
      rw [taken'] at inStep
      cases inStep
  | ok found =>
    rw [taken] at inStep
    cases taken' : other here with
    | error failure' =>
      rw [taken'] at inStep
      cases inStep
    | ok found' =>
      rw [taken'] at inStep
      obtain ⟨found, rest⟩ := found
      obtain ⟨found', rest'⟩ := found'
      cases inStep
      exact behind found found' rest taken

/-- What is made of the results does not matter. -/
theorem map (inStep : InStep reader other here) (result : α → β) (result' : α' → β') :
    InStep (reader >>= fun found => pure (result found))
      (other >>= fun found => pure (result' found)) here :=
  inStep.bind fun _ _ _ _ => rfl

/-- Two readers that go by the first of the tokens in the same way. -/
theorem look {peek : Token → Option γ} {present : γ → Reader α} {present' : γ → Reader α'}
    {absent : Reader α} {absent' : Reader α'}
    (isPresent : ∀ token rest found, here = token :: rest → peek token = some found →
      InStep (present found) (present' found) rest)
    (isAbsent : InStep absent absent' here) :
    InStep (Parser.look peek present absent) (Parser.look peek present' absent') here := by
  cases here with
  | nil => exact isAbsent
  | cons token rest =>
    rw [InStep, Parser.look, Parser.look]
    cases seen : peek token with
    | some found => exact isPresent token rest found rfl seen
    | none => exact isAbsent

end InStep

/-! ### Paths -/

section Parts

variable {stop : Position} {text text' : Option (List Char)}

/-- Where a failure is does not depend on the text. -/
theorem failure_text (fault : GrammarFault) (here : List Token) :
    failure ⟨stop, text⟩ fault here = failure ⟨stop, text'⟩ fault here := by
  cases here <;> rfl

theorem inStep_refuse {α β : Type} (fault : Option Token → GrammarFault) (here : List Token) :
    InStep (refuse ⟨stop, text⟩ fault : Reader α) (refuse ⟨stop, text'⟩ fault : Reader β) here :=
  congrArg Except.error (failure_text _ here)

theorem inStep_take {β : Type} (peek : Token → Option β) (fault : Option Token → GrammarFault)
    (here : List Token) :
    InStep (take ⟨stop, text⟩ peek fault) (take ⟨stop, text'⟩ peek fault) here :=
  .look (fun _ rest found _ _ => .refl (pure found) rest) (inStep_refuse fault here)

/-- The name behind a point is the only thing that is read from the text. -/
theorem inStep_segment (here : List Token) :
    InStep (reading (segment ⟨stop, text⟩)) (reading (segment ⟨stop, text'⟩)) here := by
  cases here with
  | nil => rfl
  | cons token rest =>
    simp only [InStep, reading, segment]
    cases isSegment token.kind <;> rfl

/-- The names of paths are read in step, by induction on the number of tokens that are left. -/
theorem inStep_segments (here : List Token) :
    InStep (reading (moreSegments ⟨stop, text⟩)) (reading (moreSegments ⟨stop, text'⟩)) here := by
  rw [reading_moreSegments ⟨stop, text⟩, reading_moreSegments ⟨stop, text'⟩]
  refine .look (fun token rest _ split _ => ?_) (.refl _ here)
  exact (inStep_segment rest).bind fun _ _ behind taken => (inStep_segments behind).map _ _
termination_by here.length
decreasing_by
  have shorter := reading_shorter taken
  rw [split, List.length_cons]
  omega

theorem inStep_path (here : List Token) :
    InStep (reading (path ⟨stop, text⟩)) (reading (path ⟨stop, text'⟩)) here := by
  rw [reading_path, reading_path]
  exact (inStep_take _ _ here).bind fun _ _ behind _ => (inStep_segments behind).map _ _

/-! ### Conditions -/

/-- The readers of a level, with different texts, are in step. -/
abbrev InStepLevel (stop : Position) (text text' : Option (List Char)) (level : Grammar.Level)
    (here : List Token) : Prop :=
  InStep (levelReader ⟨stop, text⟩ level) (levelReader ⟨stop, text'⟩ level) here

theorem inStep_arguments (here : List Token) (inner : ∀ rest, rest.length ≤ here.length →
      InStepLevel stop text text' (.joined .or) rest) :
    InStep (argumentsReader ⟨stop, text⟩) (argumentsReader ⟨stop, text'⟩) here := by
  rw [argumentsReader_eq ⟨stop, text⟩, argumentsReader_eq ⟨stop, text'⟩]
  refine (inner here (Nat.le_refl _)).bind fun _ _ behind taken => ?_
  have shorter := levelReader_shorter taken
  refine .look (fun token rest _ split _ => ?_) ((inStep_take _ _ behind).map _ _)
  have fewer : rest.length < here.length := by
    rw [split, List.length_cons] at shorter
    omega
  exact (inStep_arguments rest fun rest' fewer' => inner rest' (by omega)).map _ _
termination_by here.length

/-- Operands are read in step if conditions are that begin behind the first token. -/
theorem inStep_operand {here : List Token} (inner : ∀ rest, rest.length < here.length →
      InStepLevel stop text text' (.joined .or) rest) :
    InStepLevel stop text text' .operand here := by
  unfold InStepLevel
  rw [levelReader_operand, levelReader_operand]
  refine .look (fun _ rest _ _ _ => .refl _ rest) ?_
  refine .look (fun _ rest _ _ _ => .refl _ rest) ?_
  refine .look (fun token rest _ split _ => ?_) ?_
  · have condition := inner rest (by rw [split]; exact Nat.lt_succ_self _)
    exact condition.bind fun _ _ behind _ => (inStep_take _ _ behind).map _ _
  refine .look (fun token rest _ split _ => ?_) (inStep_refuse _ here)
  refine .look (fun opening behind _ split' _ => ?_) ((inStep_segments rest).map _ _)
  have given : ∀ rest', rest'.length ≤ behind.length →
      InStepLevel stop text text' (.joined .or) rest' := fun rest' fewer => inner rest' (by
    rw [split, split', List.length_cons, List.length_cons]
    omega)
  exact (InStep.look (fun _ rest' _ _ _ => .refl _ rest') (inStep_arguments behind given)).map _ _

theorem inStep_negated (here : List Token) (operand : ∀ rest, rest.length ≤ here.length →
      InStepLevel stop text text' .operand rest) : InStepLevel stop text text' .negated here := by
  unfold InStepLevel
  rw [levelReader_negated ⟨stop, text⟩, levelReader_negated ⟨stop, text'⟩]
  refine .look (fun token rest _ split _ => ?_) (operand here (Nat.le_refl _))
  have fewer : rest.length < here.length := by
    rw [split]
    exact Nat.lt_succ_self _
  exact (inStep_negated rest fun rest' fewer' => operand rest' (by omega)).map _ _
termination_by here.length

theorem inStep_range {here : List Token} (negated : ∀ rest, rest.length ≤ here.length →
      InStepLevel stop text text' .negated rest) :
    InStep (rangeReader ⟨stop, text⟩) (rangeReader ⟨stop, text'⟩) here := by
  refine (negated here (Nat.le_refl _)).bind fun _ _ behind taken => ?_
  refine (inStep_take _ _ behind).bind fun _ _ behindAnd taken' => ?_
  have shorter := levelReader_shorter taken
  have shorter' := take_shorter taken'
  exact (negated behindAnd (by omega)).map _ _

theorem inStep_ranged {here : List Token} (negated : ∀ rest, rest.length ≤ here.length →
      InStepLevel stop text text' .negated rest) : InStepLevel stop text text' .ranged here := by
  unfold InStepLevel
  rw [levelReader_ranged, levelReader_ranged]
  refine (negated here (Nat.le_refl _)).bind fun _ _ behind taken => ?_
  refine .look (fun token rest _ split _ => ?_) rfl
  have shorter := levelReader_shorter taken
  rw [split, List.length_cons] at shorter
  exact (inStep_range fun rest' fewer => negated rest' (by omega)).map _ _

theorem inStep_comparison {here : List Token} (ranged : ∀ rest, rest.length ≤ here.length →
      InStepLevel stop text text' .ranged rest) : InStepLevel stop text text' .comparison here := by
  unfold InStepLevel
  rw [levelReader_comparison, levelReader_comparison]
  refine (ranged here (Nat.le_refl _)).bind fun _ _ behind taken => ?_
  refine .look (fun token rest _ split _ => ?_) rfl
  have shorter := levelReader_shorter taken
  rw [split, List.length_cons] at shorter
  exact (ranged rest (by omega)).map _ _

theorem inStep_further (junction : Junction) (left left' : Expr) (here : List Token)
    (part : ∀ rest, rest.length ≤ here.length →
      InStepLevel stop text text' junction.part rest) :
    InStep (furtherReader ⟨stop, text⟩ junction left) (furtherReader ⟨stop, text'⟩ junction left')
      here := by
  rw [furtherReader_eq ⟨stop, text⟩, furtherReader_eq ⟨stop, text'⟩]
  refine .look (fun token rest _ split _ => ?_) rfl
  have fewer : rest.length < here.length := by
    rw [split]
    exact Nat.lt_succ_self _
  refine (part rest (Nat.le_of_lt fewer)).bind fun _ _ behind taken => ?_
  have shorter := levelReader_shorter taken
  exact inStep_further junction _ _ behind fun rest' fewer' => part rest' (by omega)
termination_by here.length

theorem inStep_joined (junction : Junction) {here : List Token}
    (part : ∀ rest, rest.length ≤ here.length →
      InStepLevel stop text text' junction.part rest) :
    InStepLevel stop text text' (.joined junction) here := by
  unfold InStepLevel
  rw [levelReader_joined, levelReader_joined]
  refine (part here (Nat.le_refl _)).bind fun _ _ behind taken => ?_
  have shorter := levelReader_shorter taken
  exact inStep_further junction _ _ behind fun rest fewer => part rest (by omega)

/-- **Conditions are read in step**, by induction on the number of tokens: a whole condition is only
read in a condition behind an opening parenthesis. -/
theorem inStep_condition (here : List Token) :
    InStepLevel stop text text' (.joined .or) here := by
  have operand (rest : List Token) (fewer : rest.length ≤ here.length) :
      InStepLevel stop text text' .operand rest :=
    inStep_operand fun rest' fewer' => inStep_condition rest'
  have negated (rest : List Token) (fewer : rest.length ≤ here.length) :
      InStepLevel stop text text' .negated rest :=
    inStep_negated rest fun rest' fewer' => operand rest' (Nat.le_trans fewer' fewer)
  have ranged (rest : List Token) (fewer : rest.length ≤ here.length) :
      InStepLevel stop text text' .ranged rest :=
    inStep_ranged fun rest' fewer' => negated rest' (Nat.le_trans fewer' fewer)
  have comparison (rest : List Token) (fewer : rest.length ≤ here.length) :
      InStepLevel stop text text' .comparison rest :=
    inStep_comparison fun rest' fewer' => ranged rest' (Nat.le_trans fewer' fewer)
  have conjunct (rest : List Token) (fewer : rest.length ≤ here.length) :
      InStepLevel stop text text' (.joined .and) rest :=
    inStep_joined .and fun rest' fewer' => comparison rest' (Nat.le_trans fewer' fewer)
  exact inStep_joined .or conjunct
termination_by here.length

/-! ### Clauses -/

/-- Items with commas between them are read in step if each of them is. -/
theorem inStep_separated {α : Type} {item item' : (here : List Token) → Step α here}
    (each : ∀ here, InStep (reading item) (reading item') here) (here : List Token) :
    InStep (reading (separated item)) (reading (separated item')) here := by
  rw [reading_separated item, reading_separated item']
  refine (each here).bind fun _ _ behind taken => ?_
  refine .look (fun token rest _ split _ => ?_) rfl
  have shorter := reading_shorter taken
  have fewer : rest.length < here.length := by
    rw [split, List.length_cons] at shorter
    omega
  exact (inStep_separated each rest).map _ _
termination_by here.length

theorem inStep_orderKey (here : List Token) :
    InStep (reading (orderKey ⟨stop, text⟩)) (reading (orderKey ⟨stop, text'⟩)) here := by
  rw [reading_orderKey, reading_orderKey]
  refine (inStep_path here).bind fun _ _ behind _ => ?_
  refine .look (fun _ _ _ _ _ => rfl) ?_
  exact .look (fun _ _ _ _ _ => rfl) rfl

theorem inStep_expectCount (clause : Keyword) (here : List Token) :
    InStep (reading (expectCount ⟨stop, text⟩ clause)) (reading (expectCount ⟨stop, text'⟩ clause))
      here := by
  rw [reading_expectCount, reading_expectCount]
  exact inStep_take _ _ here

/-- A clause is read in step if what stands behind its keyword is. -/
theorem inStep_clause? {α : Type} (word : Keyword) {body body' : Reader α}
    (inside : ∀ here, InStep body body' here) (here : List Token) :
    InStep (StateT.mk (clause? word body)) (StateT.mk (clause? word body')) here := by
  rw [clause?_eq, clause?_eq]
  exact .look (fun _ rest _ _ _ => (inside rest).map _ _) rfl

theorem inStep_selection (here : List Token) :
    InStep (StateT.mk (selection ⟨stop, text⟩)) (StateT.mk (selection ⟨stop, text'⟩)) here := by
  rw [selection_eq, selection_eq]
  exact .look (fun _ _ _ _ _ => rfl) ((inStep_separated inStep_path here).map _ _)

theorem inStep_source (here : List Token) :
    InStep (StateT.mk (source ⟨stop, text⟩)) (StateT.mk (source ⟨stop, text'⟩)) here := by
  rw [source_eq, source_eq]
  refine (inStep_take _ _ here).bind fun _ _ behind _ => InStep.map ?_ _ _
  rw [alias?_eq, alias?_eq]
  exact .look (fun _ rest _ _ _ => (inStep_take _ _ rest).map _ _) rfl

theorem inStep_orderKeys (here : List Token) :
    InStep (StateT.mk (orderKeys ⟨stop, text⟩)) (StateT.mk (orderKeys ⟨stop, text'⟩)) here := by
  rw [orderKeys_eq, orderKeys_eq]
  exact (inStep_take _ _ here).bind fun _ _ behind _ => inStep_separated inStep_orderKey behind

theorem inStep_finish (here : List Token) :
    InStep (finish ⟨stop, text⟩) (finish ⟨stop, text'⟩) here := by
  cases here <;> rfl

/-- **Queries are read in step.** -/
theorem inStep_query (here : List Token) :
    InStep (queryReader ⟨stop, text⟩) (queryReader ⟨stop, text'⟩) here := by
  refine (inStep_take _ _ here).bind fun _ _ here _ => ?_
  refine (inStep_clause? .top (inStep_expectCount .top) here).bind fun _ _ here _ => ?_
  refine (inStep_selection here).bind fun _ _ here _ => ?_
  refine (inStep_take _ _ here).bind fun _ _ here _ => ?_
  refine (inStep_source here).bind fun _ _ here _ => ?_
  refine (inStep_clause? .where inStep_condition here).bind fun _ _ here _ => ?_
  refine (inStep_clause? .order inStep_orderKeys here).bind fun _ _ here _ => ?_
  refine (inStep_clause? .limit (inStep_expectCount .limit) here).bind fun _ _ here _ => ?_
  exact (inStep_finish here).map _ _

/-- **The parser fails whatever the text is**, and alike. -/
theorem query_fails_alike {tokens : List Token} {error : GrammarError}
    (failed : query ⟨stop, text⟩ tokens = .error error) :
    query ⟨stop, text'⟩ tokens = .error error := by
  have inStep := @inStep_query stop text text' tokens
  rw [query_eq] at failed ⊢
  rw [InStep] at inStep
  cases taken : queryReader ⟨stop, text⟩ tokens with
  | ok found =>
    rw [taken] at failed
    cases failed
  | error error' =>
    rw [taken] at failed inStep
    cases failed
    cases taken' : queryReader ⟨stop, text'⟩ tokens with
    | ok found =>
      rw [taken'] at inStep
      cases inStep
    | error error' =>
      rw [taken'] at inStep
      cases inStep
      rfl

end Parts

end Parser

end DocQuery
