/-
**The text of a JSON value.**

Every text is ASCII: other characters are written as escapes of their UTF-16 units.

* `escapeChar`: how a character stands in a string;
* `Json.textWith`: the text with given separators, without line breaks;
* `Json.compact` and `Json.spaced`: the two pairs of separators in use;
* `Json.indented`: one element per line, two spaces deeper than its container.
-/

import DocQuery.Json.Basic

namespace DocQuery

/-! ### Strings -/

/-- Hexadecimal digits of a number, at least `width` of them. -/
def hexDigits (width n : Nat) : List Char :=
  let digits := Nat.toDigits 16 n
  List.replicate (width - digits.length) '0' ++ digits

/-- The escape of one UTF-16 unit. -/
def escapeUnit (unit : Nat) : List Char := ['\\', 'u'] ++ hexDigits 4 unit

/-- A character inside a string. -/
def escapeChar (c : Char) : List Char :=
  let code := c.toNat
  if c = '"' then ['\\', '"']
  else if c = '\\' then ['\\', '\\']
  else if c = '\n' then ['\\', 'n']
  else if c = '\r' then ['\\', 'r']
  else if c = '\t' then ['\\', 't']
  else if code = 8 then ['\\', 'b']
  else if code = 12 then ['\\', 'f']
  else if 0x20 ≤ code ∧ code < 0x7F then [c]
  else if code < 0x10000 then escapeUnit code
  else
    escapeUnit (0xD800 + (code - 0x10000) / 0x400) ++ escapeUnit (0xDC00 + (code - 0x10000) % 0x400)

/-- A string in its quotation marks. -/
def quoteJson (s : String) : String :=
  String.ofList ('"' :: s.toList.flatMap escapeChar ++ ['"'])

/-! ### Values -/

/-- The text of a number with a fraction. -/
def floatText (x : Binary64) : String := x.textWith "Infinity" "NaN"

/-- What stands between two elements and between a name and its value. -/
structure Separators where
  element : String
  name : String

namespace Json

mutual

/-- The text of a value in one line. -/
def textWith (separators : Separators) : Json → String
  | .null => "null"
  | .bool value => if value then "true" else "false"
  | .int value => toString value
  | .float value => floatText value
  | .string value => quoteJson value
  | .array items => "[" ++ separators.element.intercalate (itemTexts separators items) ++ "]"
  | .object fields =>
    "\x7b" ++ separators.element.intercalate (fieldTexts separators fields) ++ "\x7d"

/-- The texts of the items of an array. -/
def itemTexts (separators : Separators) : List Json → List String
  | [] => []
  | item :: more => textWith separators item :: itemTexts separators more

/-- The texts of the fields of an object. -/
def fieldTexts (separators : Separators) : List (String × Json) → List String
  | [] => []
  | (name, value) :: more =>
    (quoteJson name ++ separators.name ++ textWith separators value) :: fieldTexts separators more

end

/-- The text without any space. -/
def compact (value : Json) : String := value.textWith ⟨",", ":"⟩

/-- The text with a space behind each separator. -/
def spaced (value : Json) : String := value.textWith ⟨", ", ": "⟩

/-- A line break and the indentation of a level. -/
def newLine (depth : Nat) : String := String.ofList ('\n' :: List.replicate (2 * depth) ' ')

mutual

/-- The text of a value that stands `depth` levels deep, one element per line. -/
def indentedAt (depth : Nat) : Json → String
  | .array [] => "[]"
  | .array (item :: more) =>
    "[" ++ ",".intercalate (indentedItems (depth + 1) (item :: more)) ++ newLine depth ++ "]"
  | .object [] => "\x7b\x7d"
  | .object (field :: more) =>
    "\x7b" ++ ",".intercalate (indentedFields (depth + 1) (field :: more)) ++ newLine depth ++
      "\x7d"
  | value => value.spaced

/-- The lines of the items of an array. -/
def indentedItems (depth : Nat) : List Json → List String
  | [] => []
  | item :: more =>
    (newLine depth ++ indentedAt depth item) :: indentedItems depth more

/-- The lines of the fields of an object. -/
def indentedFields (depth : Nat) : List (String × Json) → List String
  | [] => []
  | (name, value) :: more =>
    (newLine depth ++ quoteJson name ++ ": " ++ indentedAt depth value) ::
      indentedFields depth more

end

/-- The text with one element per line. -/
def indented (value : Json) : String := value.indentedAt 0

end Json

end DocQuery
