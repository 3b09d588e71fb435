/-
**Texts that count as numbers.**

A text counts as the number that it denotes apart from white space around it. White space of four
kinds, the information separators, is recognised around a number but not accepted.
-/

import DocQuery.Number.Numeral
import DocQuery.Operand.Error

namespace DocQuery

/-- The number that a text denotes, if it denotes one. -/
def textNumber? (text : String) : Except EvaluationError (Option Binary64) :=
  match numeral? (trimBlanks text.toList) with
  | none => .ok none
  | some (negative, number) =>
    if text.toList.any isInformationSeparator then .error (.unreadableNumber text)
    else .ok (some (.ofDecimal negative number))

end DocQuery
