/-
**Texts as they are shown in messages.**

A text is shown in single quotation marks, or in double ones if it holds a single one and no double
one. The mark in use, backslashes and characters that are not printable are escaped.

* `quote`: a text in its quotation marks;
* `shownChar`: one character inside them.
-/

import DocQuery.Text.Printable
import DocQuery.Json.Printer

namespace DocQuery

/-- A character between quotation marks of a given kind. -/
def shownChar (mark c : Char) : List Char :=
  let code := c.toNat
  if c = mark ∨ c = '\\' then ['\\', c]
  else if c = '\n' then ['\\', 'n']
  else if c = '\r' then ['\\', 'r']
  else if c = '\t' then ['\\', 't']
  else if isPrintable c then [c]
  else if code < 0x100 then ['\\', 'x'] ++ hexDigits 2 code
  else if code < 0x10000 then ['\\', 'u'] ++ hexDigits 4 code
  else ['\\', 'U'] ++ hexDigits 8 code

/-- The quotation mark for a text. -/
def quotationMark (cs : List Char) : Char :=
  if cs.contains '\'' && !cs.contains '"' then '"' else '\''

/-- A text in quotation marks. -/
def quote (text : String) : String :=
  let mark := quotationMark text.toList
  String.ofList (mark :: text.toList.flatMap (shownChar mark) ++ [mark])

/-! ### Values -/

namespace Json

mutual

/-- A value as it is shown in messages. -/
def shown : Json → String
  | .null => "None"
  | .bool value => if value then "True" else "False"
  | .int value => toString value
  | .float value => value.text
  | .string value => quote value
  | .array items => "[" ++ ", ".intercalate (shownItems items) ++ "]"
  | .object fields => "\x7b" ++ ", ".intercalate (shownFields fields) ++ "\x7d"

/-- The items of an array as they are shown. -/
def shownItems : List Json → List String
  | [] => []
  | item :: more => shown item :: shownItems more

/-- The fields of an object as they are shown. -/
def shownFields : List (String × Json) → List String
  | [] => []
  | (name, value) :: more => (quote name ++ ": " ++ shown value) :: shownFields more

end

/-- A value as plain text: a text as it is, and any other value as it is shown. -/
def plain : Json → String
  | .string text => text
  | value => value.shown

end Json

end DocQuery
