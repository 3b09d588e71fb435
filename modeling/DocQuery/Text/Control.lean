/-
**Texts without control sequences.**

A control sequence changes how a terminal shows the text behind it. It begins with an escape
character and an opening bracket, goes on with digits, semicolons and question marks, and ends with
a letter.

* `behindSequence?`: what is behind the control sequence that comes next;
* `withoutControls`: a text without its control sequences.
-/

import DocQuery.Text.CharClass

namespace DocQuery

/-- A character that may stand inside a control sequence. -/
def isSequenceChar (c : Char) : Bool := isAsciiDigit c || c == ';' || c == '?'

/-- A letter that ends a control sequence. -/
def isSequenceEnd (c : Char) : Bool := ('a' ≤ c && c ≤ 'z') || ('A' ≤ c && c ≤ 'Z')

/-- What is behind the control sequence that comes next, if one does. -/
def behindSequence? (here : List Char) : Option (List Char) :=
  match here with
  | '\x1b' :: '[' :: rest =>
    match rest.dropWhile isSequenceChar with
    | c :: behind => if isSequenceEnd c then some behind else none
    | [] => none
  | _ => none

theorem length_behindSequence?_lt {here behind : List Char}
    (found : behindSequence? here = some behind) : behind.length < here.length := by
  unfold behindSequence? at found
  split at found
  · next rest =>
    have shorter := (List.dropWhile_suffix isSequenceChar (l := rest)).length_le
    split at found
    · next c others equal =>
      split at found
      · obtain rfl := Option.some.inj found
        rw [equal, List.length_cons] at shorter
        simp only [List.length_cons]
        omega
      · exact absurd found (by simp)
    · exact absurd found (by simp)
  · exact absurd found (by simp)

/-- Characters without their control sequences. -/
def dropControls (here : List Char) : List Char :=
  match here with
  | [] => []
  | c :: rest =>
    match _found : behindSequence? (c :: rest) with
    | some behind => dropControls behind
    | none => c :: dropControls rest
termination_by here.length
decreasing_by
  · exact length_behindSequence?_lt _found
  · exact Nat.lt_add_one _

/-- A text without its control sequences. -/
def withoutControls (text : String) : String := String.ofList (dropControls text.toList)

end DocQuery
