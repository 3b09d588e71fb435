/-
**Names that are alike.**

* `matchedLength`: how many characters two texts have in common, in blocks. The longest common block
  is taken first, and then the texts before it and those behind it are compared in the same way;
* `likeNames`: the names that are most like a word.
-/

import DocQuery.Text.Trim

namespace DocQuery

/-! ### Common blocks -/

/-- The length of the common beginning of two texts. -/
def commonStart : List Char → List Char → Nat
  | c :: left, d :: right => if c = d then commonStart left right + 1 else 0
  | _, _ => 0

/-- A block that two texts have in common: where it begins in each, and its length. -/
structure CommonBlock where
  left : Nat
  right : Nat
  size : Nat

/-- The longer one of two blocks, and the first one if they are equally long. -/
def CommonBlock.longer (first second : CommonBlock) : CommonBlock :=
  if first.size < second.size then second else first

/-- The longest block with which the first text begins. -/
def blockAtStart (left : List Char) : List Char → CommonBlock
  | [] => ⟨0, 0, 0⟩
  | d :: right =>
    let later := blockAtStart left right
    CommonBlock.longer ⟨0, 0, commonStart left (d :: right)⟩ { later with right := later.right + 1 }

/-- The longest block of two texts: of several the first one in the first text, and there the first
one in the second text. -/
def longestBlock : List Char → List Char → CommonBlock
  | [], _ => ⟨0, 0, 0⟩
  | c :: left, right =>
    let later := longestBlock left right
    (blockAtStart (c :: left) right).longer { later with left := later.left + 1 }

/-- How many characters two texts have in common. -/
def matchedLength (left right : List Char) : Nat :=
  match longestBlock left right with
  | ⟨i, j, size⟩ =>
    if _h : 0 < size ∧ i < left.length then
      size + matchedLength (left.take i) (right.take j) +
        matchedLength (left.drop (i + size)) (right.drop (j + size))
    else 0
termination_by left.length
decreasing_by
  · rw [List.length_take]; omega
  · rw [List.length_drop]; omega

/-! ### Likeness -/

/-- A text with its likeness to another: twice the common characters, out of all characters. -/
structure Likeness where
  name : String
  common : Nat
  total : Nat

namespace Likeness

/-- The likeness of a name to a word. -/
def ofName (word name : String) : Likeness :=
  ⟨name, 2 * matchedLength name.toList word.toList, name.length + word.length⟩

/-- Whether at least three fifths of the characters are common ones. -/
def isClose (likeness : Likeness) : Bool := 3 * likeness.total ≤ 5 * likeness.common

/-- Whether a name goes before another: the one that is more like the word, and of equally like ones
the one with the greater name. -/
def precedes (first second : Likeness) : Bool :=
  let left := first.common * second.total
  let right := second.common * first.total
  right < left || (left == right && second.name ≤ first.name)

end Likeness

/-- At most three names that are most like a word, in alphabetical order. -/
def likeNames (word : String) (names : List String) : List String :=
  let close := (names.map (Likeness.ofName word)).filter Likeness.isClose
  (((close.mergeSort Likeness.precedes).take 3).map Likeness.name).mergeSort (· ≤ ·)

end DocQuery
