/-
**Tables of characters.**

Properties of characters that are not a matter of a few comparisons are kept as tables: lists of
ranges of code points in ascending order, both ends included.

* `inRanges` looks a code point up and stops at the first range that begins beyond it;
* `CaseRun.image?` and `caseImage?` look up a mapping from characters to characters, kept as runs
  of equally spaced code points that are all moved by the same distance.
-/

namespace DocQuery

/-- Whether a code point lies in one of the ranges, which ascend. -/
def inRanges : List (Nat × Nat) → Nat → Bool
  | [], _ => false
  | (first, last) :: more, code =>
    if code < first then false else if code ≤ last then true else inRanges more code

/-- Code points `first`, `first + step`, … up to `last`, of which the first is mapped to `target`
and the others by the same distance. -/
structure CaseRun where
  first : Nat
  last : Nat
  step : Nat
  target : Nat

/-- The image of a code point under one run, if the run holds it. -/
def CaseRun.image? (run : CaseRun) (code : Nat) : Option Nat :=
  if run.first ≤ code ∧ code ≤ run.last ∧ (code - run.first) % run.step = 0 then
    some (run.target + (code - run.first))
  else none

/-- The image of a code point under a list of runs that ascend. -/
def caseImage? : List CaseRun → Nat → Option Nat
  | [], _ => none
  | run :: more, code =>
    if code < run.first then none else (run.image? code).or (caseImage? more code)

end DocQuery
