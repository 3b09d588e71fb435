/-
**Failures point into the text.**

* `FailsIn`: a failure is at one of the tokens, or behind the last one. So the parser fails
  (`Parser.query_fails`);
* `SyntaxError.PointsInto`: a failure points at a place in a text and quotes what stands there;
* `Query.ofJson_ends`: reading ends with a query, or with a failure that points into the text,
  unless there is no text or only white space. In front of a failure of the scanner all is read.
-/

import DocQuery.Proofs.Query.Lookahead
import DocQuery.Proofs.Query.Place
import DocQuery.Proofs.Text.Lines
import Mathlib.Data.List.TakeWhile

namespace DocQuery

/-- A failure is at the first token of an end of some tokens, or behind the last one. -/
def FailsIn (origin : Origin) (here : List Token) (error : GrammarError) : Prop :=
  ∃ fault rest, rest <:+ here ∧ error = Parser.failure origin fault rest

/-- **The parser fails at one of the tokens**, or behind the last one. -/
theorem Parser.query_fails (origin : Origin) (tokens : List Token) :
    FailsOnly (FailsIn origin tokens) (query origin tokens) := by
  intro error failed
  obtain ⟨first, rest, fault, rfl, same, -⟩ := query_fails_first origin failed
  exact ⟨fault, rest, List.suffix_append first rest, same⟩

/-! ### Places of failures -/

/-- A failure points at a place in a text. It counts the lines and columns in front of the place,
and quotes what is left of the text there, if anything is. -/
structure SyntaxError.PointsInto (error : SyntaxError) (text : List Char) (place : Position) :
    Prop where
  position : error.position = some place
  inside : place.offset ≤ text.length
  behind : place.IsBehind (text.take place.offset)
  fragment : error.fragment = if text.drop place.offset = [] then none
    else some (String.ofList (text.drop place.offset))

theorem SyntaxError.pointsInto_of_split {error : SyntaxError} {before behind : List Char}
    (position : error.position = some (Position.origin.after before))
    (fragment : error.fragment = if behind = [] then none else some (String.ofList behind)) :
    error.PointsInto (before ++ behind) (Position.origin.after before) := by
  have counted := Position.isBehind_after before
  constructor
  · exact position
  · rw [counted.offset, List.length_append]
    exact Nat.le_add_right _ _
  · rwa [counted.offset, List.take_left]
  · rwa [counted.offset, List.drop_left]

/-- What the parser reports of tokens that were read points into the text. -/
theorem grammar_pointsInto {text : List Char} {tokens : List Token} {stop : Position}
    (scanned : scan text = .ok (tokens, stop)) {failure : GrammarError}
    (failed : FailsIn ⟨stop, some text⟩ tokens failure) :
    (SyntaxError.grammar failure (some (text.drop failure.position.offset))).PointsInto text
      failure.position := by
  obtain ⟨isStop, places⟩ := scanFrom_places scanned
  have split : ∃ before behind, text = before ++ behind ∧
      failure.position = Position.origin.after before := by
    obtain ⟨fault, rest, suffix, rfl⟩ := failed
    cases rest with
    | nil => exact ⟨text, [], text.append_nil.symm, isStop⟩
    | cons token more => exact places token (suffix.mem List.mem_cons_self)
  obtain ⟨before, behind, rfl, place⟩ := split
  rw [place]
  refine SyntaxError.pointsInto_of_split (congrArg some place) ?_
  rw [(Position.isBehind_after before).offset, List.drop_left]
  cases behind <;> rfl

/-- What the scanner reports points into the text, and all that stands in front of it is read. -/
theorem lexical_pointsInto {text : List Char} {failure : LexicalError}
    (refused : scan text = .error failure) :
    (SyntaxError.lexical failure).PointsInto text failure.position ∧
      (∃ tokens stop, scan (text.take failure.position.offset) = .ok (tokens, stop)) ∧
      ∃ c rest, text.drop failure.position.offset = c :: rest ∧
        lexeme c rest = .error failure.fault := by
  obtain ⟨before, c, rest, pieces, rfl, fragment, place, fault, isRead⟩ := scanFrom_error refused
  obtain ⟨tokens, stop, scanned, -⟩ := exists_scan isRead
  have points : (SyntaxError.lexical failure).PointsInto (before ++ c :: rest)
      (Position.origin.after before) :=
    SyntaxError.pointsInto_of_split (congrArg some place)
      (congrArg (fun text => some (String.ofList text)) fragment)
  rw [place, (Position.isBehind_after before).offset, List.take_left, List.drop_left]
  exact ⟨points, ⟨tokens, stop, scanned⟩, c, rest, rfl, fault⟩

/-! ### Reading -/

namespace Query

/-- **Reading ends with a query or a failure that points into the text.** There is no place to point
at if what is given is no text, or nothing but white space. What stands in front of a failure of the
scanner can be read by itself. An integer is refused as too long only if it is. -/
theorem ofJson_ends (given : Json) :
    (∃ query, ofJson given = .ok query) ∨ ∃ error, ofJson given = .error error ∧
      ((error = .empty ∧ ∀ text, given = .string text → ∀ c ∈ text.toList, isBlank c) ∨
      ∃ text place, given = .string text ∧ error.PointsInto text.toList place ∧
        ∀ failure, error = .lexical failure →
          (∃ tokens stop, scan (text.toList.take place.offset) = .ok (tokens, stop)) ∧
          (failure.fault = .oversizedInteger → ∃ negative digits behind,
            text.toList.drop place.offset = signChars negative ++ (digits ++ behind) ∧
            (∀ d ∈ digits, isAsciiDigit d) ∧ maxIntegerDigits < digits.length)) := by
  cases given with
  | string text =>
    rw [ofJson, read]
    split
    · next blank =>
      refine .inr ⟨.empty, rfl, .inl ⟨rfl, ?_⟩⟩
      rintro _ ⟨⟩
      exact all_blank_of_trimBlanks blank
    rw [readWith]
    cases scanned : scan text.toList with
    | error failure =>
      obtain ⟨points, isRead, c, rest, behind, fault⟩ := lexical_pointsInto scanned
      refine .inr ⟨_, rfl, .inr ⟨text, _, rfl, points, ?_⟩⟩
      rintro _ ⟨⟩
      refine ⟨isRead, fun long => ?_⟩
      rw [behind]
      rw [long] at fault
      exact lexeme_oversized fault
    | ok found =>
      obtain ⟨tokens, stop⟩ := found
      simp only [ofTokens, if_true]
      cases parsed : Parser.query ⟨stop, some text.toList⟩ tokens with
      | ok query => exact .inl ⟨query, rfl⟩
      | error failure =>
        have points := grammar_pointsInto scanned (Parser.query_fails _ tokens failure parsed)
        exact .inr ⟨_, rfl, .inr ⟨text, _, rfl, points, fun _ other => by cases other⟩⟩
  | null | bool | int | float | array | object =>
    exact .inr ⟨.empty, rfl, .inl ⟨rfl, fun _ other => by cases other⟩⟩

end Query

end DocQuery
