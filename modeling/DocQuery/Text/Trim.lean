/-
**Trimming, splitting and searching texts.**

* `trimBlanks`, `trim`: a text without the white space at both of its ends;
* `splitAt`, `splitOn`: the parts between the occurrences of a character;
* `splitLines`: the lines of a text, ended by any of the line separators;
* `isInfix`: whether a text occurs inside another.
-/

import DocQuery.Text.CharClass

namespace DocQuery

/-- The characters without the ones at the end that satisfy `p`. -/
def dropWhileEnd (p : Char → Bool) (cs : List Char) : List Char :=
  (cs.reverse.dropWhile p).reverse

/-- The characters without white space at either end. -/
def trimBlanks (cs : List Char) : List Char := dropWhileEnd isBlank (cs.dropWhile isBlank)

/-- A text without white space at either end. -/
def trim (text : String) : String := String.ofList (trimBlanks text.toList)

/-- The parts between the occurrences of a separator, one more than there are separators. -/
def splitAt (separator : Char) : List Char → List (List Char)
  | [] => [[]]
  | c :: rest =>
    if c = separator then [] :: splitAt separator rest
    else
      match splitAt separator rest with
      | [] => [[c]]
      | part :: parts => (c :: part) :: parts

/-- The parts of a text between the occurrences of a separator. -/
def splitOn (separator : Char) (text : String) : List String :=
  (splitAt separator text.toList).map String.ofList

/-- A character that ends a line. -/
def isLineEnd (c : Char) : Bool :=
  let code := c.toNat
  (0x0A ≤ code && code ≤ 0x0D) || (0x1C ≤ code && code ≤ 0x1E) || code == 0x85 ||
    code == 0x2028 || code == 0x2029

/-- Puts a character in front of the first line. -/
def consLine (c : Char) : List (List Char) → List (List Char)
  | [] => [[c]]
  | line :: lines => (c :: line) :: lines

/-- The lines of a text without their ends. A carriage return and the line feed behind it are one
end, and there is no line behind the last end. -/
def linesOf : List Char → List (List Char)
  | [] => []
  | '\r' :: '\n' :: rest => [] :: linesOf rest
  | c :: rest => if isLineEnd c then [] :: linesOf rest else consLine c (linesOf rest)

/-- The lines of a text. -/
def splitLines (text : String) : List String := (linesOf text.toList).map String.ofList

/-- Whether a sequence of characters begins with another. -/
def startsWith : List Char → List Char → Bool
  | _, [] => true
  | [], _ :: _ => false
  | c :: text, d :: word => c == d && startsWith text word

/-- Whether a sequence of characters holds another as a block. -/
def isInfix (word : List Char) : List Char → Bool
  | [] => word.isEmpty
  | c :: text => startsWith (c :: text) word || isInfix word text

end DocQuery
