/-
**A simple form of YAML.**

Settings may be written as lines that are nested by indentation. A line is a name with a colon and a
value, or an item of a list behind a hyphen; a name without a value, or a hyphen alone, has what is
nested below it. Values are words, numbers and texts in quotation marks.

* `yamlLines`: the lines without comments, with the depth of their indentation;
* `yamlScalar`: the value of a word;
* `parseYaml?`: the value of a whole text, and null for one without any lines. Only the names at the
  outermost depth have to be texts.
-/

import DocQuery.Json.Reader
import DocQuery.Number.Numeral

namespace DocQuery

/-- A line: the depth of its indentation, and what stands behind it. -/
structure YamlLine where
  depth : Nat
  content : List Char
deriving DecidableEq, Repr

/-! ### Lines -/

/-- A line without a comment, which begins with a number sign behind white space. -/
def dropComment (afterBlank : Bool) : List Char → List Char
  | [] => []
  | c :: rest => if c = '#' && afterBlank then [] else c :: dropComment (isBlank c) rest

/-- A line with its indentation, unless nothing stands on it. -/
def yamlLine? (line : List Char) : Option YamlLine :=
  let content := trimBlanks (dropComment true line)
  if content.isEmpty || content == "---".toList then none
  else some ⟨(line.takeWhile (· == ' ')).length, content⟩

/-- The lines of a text on which something stands. -/
def yamlLines (text : String) : List YamlLine := (linesOf text.toList).filterMap yamlLine?

/-! ### Values -/

/-- A text between single quotation marks, in which two of them stand for one. -/
def singleQuoted? : List Char → Option (List Char)
  | '\'' :: '\'' :: rest => ('\'' :: ·) <$> singleQuoted? rest
  | ['\''] => some []
  | '\'' :: _ => none
  | c :: rest => (c :: ·) <$> singleQuoted? rest
  | [] => none

/-- The value of a word without quotation marks. -/
def plainScalar (word : String) : Json :=
  if ["", "~", "null", "Null", "NULL"].contains word then .null
  else if ["true", "True", "TRUE", "yes", "Yes", "YES", "on", "On", "ON"].contains word then
    .bool true
  else if ["false", "False", "FALSE", "no", "No", "NO", "off", "Off", "OFF"].contains word then
    .bool false
  else
    match integerText? word with
    | some value => .int value
    | none =>
      match if word.toList.contains '.' then numberText? word else none with
      | some value => .float value
      | none => .string word

/-- The value of a word. -/
def yamlScalar (word : List Char) : Option Json :=
  match word with
  | '"' :: _ =>
    match Json.parse? (String.ofList word) with
    | some (.string text) => some (.string text)
    | _ => none
  | '\'' :: rest => (fun text => .string (String.ofList text)) <$> singleQuoted? rest
  | ['[', ']'] => some (.array [])
  | ['\x7b', '\x7d'] => some (.object [])
  | _ => some (plainScalar (String.ofList word))

/-! ### Blocks -/

/-- The name and the rest of a line with a colon, which stands before white space or at the end. -/
def splitKey? : List Char → Option (List Char × List Char)
  | [] => none
  | [c] => if c = ':' then some ([], []) else none
  | c :: d :: rest =>
    if c = ':' && isBlank d then some ([], trimBlanks (d :: rest))
    else (splitKey? (d :: rest)).map fun (key, value) => (c :: key, value)

/-- What stands behind the hyphen of an item. -/
def itemContent? : List Char → Option (List Char)
  | ['-'] => some []
  | '-' :: ' ' :: rest => some (trimBlanks rest)
  | _ => none

/-- A name in front of a colon. -/
def keyText? (key : List Char) : Option String :=
  match yamlScalar key with
  | some (.string text) => some text
  | some _ => some (String.ofList key)
  | none => none

mutual

/-- The value of the lines at a depth, and the lines behind them. -/
def yamlBlock : Nat → Nat → List YamlLine → Option (Json × List YamlLine)
  | 0, _, _ => none
  | _, _, [] => some (.null, [])
  | fuel + 1, depth, line :: more =>
    if (itemContent? line.content).isSome then
      (yamlItems fuel depth (line :: more)).map fun (items, rest) => (.array items, rest)
    else if (splitKey? line.content).isSome then
      (yamlFields fuel depth (line :: more)).map fun (fields, rest) =>
        (.object (Table.ofPairs fields), rest)
    else (yamlScalar line.content).map fun value => (value, more)

/-- The items at a depth, and the lines behind them. -/
def yamlItems : Nat → Nat → List YamlLine → Option (List Json × List YamlLine)
  | 0, _, _ => none
  | _, _, [] => some ([], [])
  | fuel + 1, depth, line :: more =>
    if line.depth ≠ depth then some ([], line :: more)
    else
      match itemContent? line.content with
      | none => some ([], line :: more)
      | some content => do
        let (value, rest) ← yamlNested fuel (depth + 1) content more
        let (values, rest) ← yamlItems fuel depth rest
        return (value :: values, rest)

/-- The fields at a depth, and the lines behind them. -/
def yamlFields : Nat → Nat → List YamlLine → Option (List (String × Json) × List YamlLine)
  | 0, _, _ => none
  | _, _, [] => some ([], [])
  | fuel + 1, depth, line :: more =>
    if line.depth ≠ depth then some ([], line :: more)
    else
      match splitKey? line.content with
      | none => none
      | some (key, content) => do
        let name ← keyText? key
        let least := match more with
          | next :: _ => if (itemContent? next.content).isSome then depth else depth + 1
          | [] => depth + 1
        let (value, rest) ← yamlNested fuel least content more
        let (fields, rest) ← yamlFields fuel depth rest
        return ((name, value) :: fields, rest)

/-- The value behind a name or a hyphen: what stands there, or the lines nested at a least depth. -/
def yamlNested : Nat → Nat → List Char → List YamlLine → Option (Json × List YamlLine)
  | 0, _, _, _ => none
  | fuel + 1, least, content, lines =>
    if content.isEmpty then
      match lines with
      | next :: more =>
        if least ≤ next.depth then yamlBlock fuel next.depth (next :: more) else some (.null, lines)
      | [] => some (.null, [])
    else (yamlScalar content).map fun value => (value, lines)

end

/-- Whether a line at a depth begins with a name that is not a text. -/
def YamlLine.hasOtherName (depth : Nat) (line : YamlLine) : Bool :=
  line.depth == depth && (splitKey? line.content).any fun (key, _) =>
    match yamlScalar key with
    | some (.string _) => false
    | _ => true

/-- The value that a text holds. Objects have texts as names. If one of the outermost names is none,
then there is no object but a list of the names with their values. -/
def parseYaml? (text : String) : Option Json :=
  match yamlLines text with
  | [] => some .null
  | line :: more =>
    match yamlBlock (4 * (more.length + 2)) line.depth (line :: more) with
    | some (.object fields, []) =>
      if (line :: more).any (·.hasOtherName line.depth) then
        some (.array (fields.map fun (name, value) => .array [.string name, value]))
      else some (.object fields)
    | some (value, []) => some value
    | _ => none

end DocQuery
