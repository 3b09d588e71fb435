/-
**Lines of a limited width.**

* `runsOf`: a text as words and the spaces between them;
* `wrap`: the lines that a text fills. A line ends where the next word would not fit, and the spaces
  at the end of a line are left out.
-/

import DocQuery.Text.Trim

namespace DocQuery

/-- Puts a character in front of the first run if it is of the same kind, and else in a run of its
own. -/
def consRun (c : Char) : List (List Char) → List (List Char)
  | (d :: run) :: runs =>
    if (c == ' ') = (d == ' ') then (c :: d :: run) :: runs else [c] :: (d :: run) :: runs
  | runs => [c] :: runs

/-- The words of a text and the spaces between them. -/
def runsOf : List Char → List (List Char)
  | [] => []
  | c :: rest => consRun c (runsOf rest)

/-- Fills lines with runs, of which the first line has some already. -/
def fillLines (width : Nat) (line : List Char) : List (List Char) → List (List Char)
  | [] => [dropWhileEnd (· == ' ') line]
  | run :: runs =>
    if line.isEmpty || line.length + run.length ≤ width then fillLines width (line ++ run) runs
    else
      dropWhileEnd (· == ' ') line :: fillLines width (run.dropWhile (· == ' ')) runs

/-- The lines that a text fills. -/
def wrap (width : Nat) (text : String) : List String :=
  (fillLines width [] (runsOf text.toList)).map String.ofList

end DocQuery
