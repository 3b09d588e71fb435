/-
**Places in a text.**

* `Position.IsBehind`: a position counts the lines and the characters in front of it.
  `isBehind_after` says that the positions of the scanner do so;
* `scanFrom_places`: every token that is read stands behind a beginning of the text, and the end
  behind all of it;
* `scanFrom_error`: where no token can be read, what stands in front of that place can be read by
  itself. No character that ends the reading begins a name, so none has changed where a number in
  front of it ends;
* `lexeme_oversized`: what is refused as too long is an integer with too many digits.
-/

import DocQuery.Proofs.Query.Lexical

namespace DocQuery

/-! ### Positions -/

namespace Position

theorem after_append (start : Position) (before more : List Char) :
    start.after (before ++ more) = (start.after before).after more := List.foldl_append

/-- A position stands behind some characters that begin a text. -/
structure IsBehind (position : Position) (before : List Char) : Prop where
  line : position.line = 1 + before.count '\n'
  column : position.column = 1 + (before.reverse.takeWhile fun c => c != '\n').length
  offset : position.offset = before.length

theorem IsBehind.next {position : Position} {before : List Char} (behind : position.IsBehind before)
    (c : Char) : (position.next c).IsBehind (before ++ [c]) := by
  obtain ⟨line, column, offset⟩ := behind
  unfold Position.next
  split
  · next same =>
    subst same
    constructor <;> simp [line, offset, Nat.add_assoc]
  · next other =>
    constructor <;> simp [line, column, offset, other, Nat.add_comm]

/-- The position behind the first characters of a text stands behind them. -/
theorem isBehind_after (before : List Char) : (origin.after before).IsBehind before := by
  have reversed (cs : List Char) : (origin.after cs.reverse).IsBehind cs.reverse := by
    induction cs with
    | nil => exact ⟨rfl, rfl, rfl⟩
    | cons c more ih =>
      rw [List.reverse_cons, after_append]
      exact ih.next c
  rw [← before.reverse_reverse]
  exact reversed before.reverse

end Position

/-! ### What is read -/

theorem scanFrom_places {here : List Char} {start stop : Position} {tokens : List Token}
    (found : scanFrom here start = .ok (tokens, stop)) :
    stop = start.after here ∧ ∀ token ∈ tokens, ∃ before behind,
      here = before ++ behind ∧ token.position = start.after before := by
  fun_induction scanFrom here start generalizing tokens with
  | case1 start =>
    cases found
    exact ⟨rfl, fun _ member => absurd member List.not_mem_nil⟩
  | case2 start c rest blank ih =>
    obtain ⟨isStop, places⟩ := ih found
    refine ⟨isStop, fun token member => ?_⟩
    obtain ⟨before, behind, rfl, place⟩ := places token member
    exact ⟨c :: before, behind, rfl, place⟩
  | case3 => cases found
  | case4 => cases found
  | case5 start c rest visible first lexed tokens' stop' isRest ih =>
    cases found
    obtain ⟨isStop, places⟩ := ih isRest
    have whole := first.complete
    refine ⟨?_, fun token member => ?_⟩
    · rw [isStop, ← Position.after_append, whole]
    · rcases List.mem_cons.mp member with rfl | member
      · exact ⟨[], c :: rest, rfl, rfl⟩
      · obtain ⟨before, behind, split, place⟩ := places token member
        refine ⟨first.spelling ++ before, behind, ?_, ?_⟩
        · rw [List.append_assoc, ← split, whole]
        · rw [place, Position.after_append]

/-! ### What cannot be read -/

theorem not_isNameStart_of_refused {c : Char} {rest : List Char} {fault : LexicalFault}
    (refused : lexeme c rest = .error fault) : isNameStart c = false := by
  refine Bool.eq_false_iff.mpr fun start => ?_
  rw [lexeme_name start] at refused
  cases refused

/-- **What stands in front of a failure can be read by itself.** -/
theorem scanFrom_error {here : List Char} {start : Position} {failure : LexicalError}
    (refused : scanFrom here start = .error failure) :
    ∃ before c rest pieces, here = before ++ c :: rest ∧ failure.fragment = c :: rest ∧
      failure.position = start.after before ∧ lexeme c rest = .error failure.fault ∧
      pieces? before = some pieces := by
  fun_induction scanFrom here start with
  | case1 => cases refused
  | case2 start c rest blank ih =>
    obtain ⟨before, d, behind, pieces, rfl, fragment, place, fault, isRead⟩ := ih refused
    exact ⟨c :: before, d, behind, pieces, rfl, fragment, place, fault,
      (pieces?_blank blank before).trans isRead⟩
  | case3 start c rest visible fault lexed =>
    cases refused
    exact ⟨[], c, rest, [], rfl, rfl, rfl, lexed, by rw [pieces?.eq_def]⟩
  | case4 start c rest visible first lexed failure' isRest ih =>
    cases refused
    obtain ⟨before, d, behind, pieces, split, fragment, place, fault, isRead⟩ := ih isRest
    obtain ⟨token, ends⟩ := lexeme_sound lexed
    rw [split] at ends
    have isFirst := token.reads before (ends.shorten (not_isNameStart_of_refused fault))
    refine ⟨first.spelling ++ before, d, behind, ⟨first.kind, first.spelling⟩ :: pieces, ?_,
      fragment, ?_, fault, ?_⟩
    · rw [List.append_assoc, ← split, first.complete]
    · rw [place, Position.after_append]
    · rw [isFirst, isRead]
      rfl
  | case5 => cases refused

theorem length_of_isOversized {here : List Char} (long : isOversized here) :
    maxIntegerDigits < (here.takeWhile isAsciiDigit).length := by
  rw [isOversized, Bool.and_eq_true, decide_eq_true_eq] at long
  rcases numberChars_cases here with ⟨_, _, isNumber, -⟩ | ⟨_, isNumber, -⟩
  · rw [isNumber] at long
    exact long.2
  · rw [isNumber] at long
    exact long.2

theorem symbolLexeme_fault {here : List Char} {some : here ≠ []} {fault : LexicalFault}
    (refused : symbolLexeme here some = .error fault) :
    fault = .loneExclamation ∨ ∃ c, fault = .unexpected c := by
  unfold symbolLexeme at refused
  split at refused <;> cases refused
  · exact .inl rfl
  · exact .inr ⟨_, rfl⟩

/-- What is refused as too long is an integer with too many digits. -/
theorem lexeme_oversized {c : Char} {rest : List Char}
    (refused : lexeme c rest = .error .oversizedInteger) :
    ∃ negative digits behind, c :: rest = signChars negative ++ (digits ++ behind) ∧
      (∀ d ∈ digits, isAsciiDigit d) ∧ maxIntegerDigits < digits.length := by
  have digits (cs : List Char) : ∀ d ∈ cs.takeWhile isAsciiDigit, isAsciiDigit d := fun d =>
    List.all_eq_true.mp List.all_takeWhile d
  unfold lexeme at refused
  split at refused
  · next quoted =>
    subst quoted
    unfold stringLexeme at refused
    split at refused <;> cases refused
  split at refused
  · split at refused
    · next long =>
      exact ⟨false, _, _, List.takeWhile_append_dropWhile.symm, digits _,
        length_of_isOversized long⟩
    · cases refused
  split at refused
  · next minus =>
    split at refused
    · next long =>
      obtain ⟨rfl, -⟩ := minus
      exact ⟨true, _, _, congrArg ('-' :: ·) List.takeWhile_append_dropWhile.symm, digits _,
        length_of_isOversized long⟩
    · cases refused
  split at refused
  · cases refused
  split at refused
  · next parameter =>
    subst parameter
    unfold parameterLexeme at refused
    split at refused
    · split at refused <;> cases refused
    · cases refused
  · rcases symbolLexeme_fault refused with fault | ⟨c, fault⟩ <;> cases fault

end DocQuery
