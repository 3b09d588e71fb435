/-
**Tokens of a query.**

* `Position.after`: the position behind some characters, of which only a line feed begins a line;
* `Keyword.ofWord?`: the keyword that a word is in lower case, and none for other words;
* `TokenKind`: what a token is, with the value it holds;
* `Token.text`: a token as it is shown.
-/

import DocQuery.Text.Case
import DocQuery.Text.Quoted

namespace DocQuery

/-! ### Positions -/

/-- A place in a query: line and column count from 1, the offset from 0. -/
structure Position where
  line : Nat
  column : Nat
  offset : Nat
deriving DecidableEq, Repr

namespace Position

/-- The beginning of a query. -/
def origin : Position := ⟨1, 1, 0⟩

/-- The position behind a character. -/
def next (position : Position) (c : Char) : Position :=
  if c = '\n' then ⟨position.line + 1, 1, position.offset + 1⟩
  else ⟨position.line, position.column + 1, position.offset + 1⟩

/-- The position behind some characters. -/
def after (position : Position) (cs : List Char) : Position := cs.foldl next position

/-- How a position is shown. -/
def text (position : Position) : String :=
  "line " ++ toString position.line ++ ", column " ++ toString position.column

end Position

/-! ### Kinds of tokens -/

/-- The reserved words that are not literals. -/
inductive Keyword where
  | select
  | top
  | from
  | as
  | where
  | order
  | by
  | asc
  | desc
  | limit
  | and
  | or
  | not
  | between
deriving DecidableEq, Repr

/-- Operators and punctuation. -/
inductive Symbol where
  | equal
  | notEqual
  | greater
  | greaterOrEqual
  | less
  | lessOrEqual
  | star
  | dot
  | comma
  | leftParen
  | rightParen
deriving DecidableEq, Repr

/-- What a token is. A keyword and a symbol keep their spelling, since several spellings mean the
same. -/
inductive TokenKind where
  | string (text : String)
  | integer (value : Int)
  | float (value : Binary64)
  | boolean (value : Bool)
  | null
  | identifier (name : String)
  | parameter (name : String)
  | keyword (word : Keyword) (spelling : String)
  | symbol (symbol : Symbol) (spelling : String)
deriving DecidableEq

/-- A token: what it is, where it begins, and how many characters it has. -/
structure Token where
  kind : TokenKind
  position : Position
  length : Nat
deriving DecidableEq

/-! ### Words -/

/-- The reserved words in lower case. -/
def Keyword.words : List (String × Keyword) :=
  [("select", .select), ("top", .top), ("from", .from), ("as", .as), ("where", .where),
   ("order", .order), ("by", .by), ("asc", .asc), ("desc", .desc), ("limit", .limit),
   ("and", .and), ("or", .or), ("not", .not), ("between", .between)]

/-- The keyword that a word in lower case is. -/
def Keyword.ofWord? (word : String) : Option Keyword := Keyword.words.lookup word

/-- The kind of a token that consists of letters, digits and underscores. -/
def TokenKind.ofWord (spelling : String) : TokenKind :=
  let word := lowerCase spelling
  if word = "true" then .boolean true
  else if word = "false" then .boolean false
  else if word = "null" then .null
  else
    match Keyword.ofWord? word with
    | some reserved => .keyword reserved spelling
    | none => .identifier spelling

namespace TokenKind

/-- Whether a token is a reserved word, the literals among them included. -/
def isReserved : TokenKind → Bool
  | .keyword .. | .boolean _ | .null => true
  | _ => false

/-- The value that a token holds. -/
def value : TokenKind → Json
  | .string text => .string text
  | .integer value => .int value
  | .float value => .float value
  | .boolean value => .bool value
  | .null => .null
  | .identifier name | .parameter name => .string name
  | .keyword _ spelling | .symbol _ spelling => .string spelling

/-- The name of a keyword. -/
def keywordTitle : Keyword → String
  | .select => "SELECT"
  | .top => "TOP"
  | .from => "FROM"
  | .as => "AS"
  | .where => "WHERE"
  | .order => "ORDER"
  | .by => "BY"
  | .asc => "ASC"
  | .desc => "DESC"
  | .limit => "LIMIT"
  | .and => "AND"
  | .or => "OR"
  | .not => "NOT"
  | .between => "BETWEEN"

/-- The name of a symbol. -/
def symbolTitle : Symbol → String
  | .equal => "EQ"
  | .notEqual => "NE"
  | .greater => "GT"
  | .greaterOrEqual => "GE"
  | .less => "LT"
  | .lessOrEqual => "LE"
  | .star => "STAR"
  | .dot => "DOT"
  | .comma => "COMMA"
  | .leftParen => "LPAREN"
  | .rightParen => "RPAREN"

/-- The name of a kind of tokens. -/
def title : TokenKind → String
  | .string _ => "STRING"
  | .integer _ => "INTEGER"
  | .float _ => "FLOAT"
  | .boolean _ => "BOOLEAN"
  | .null => "NULL"
  | .identifier _ => "IDENTIFIER"
  | .parameter _ => "PARAMETER"
  | .keyword word _ => keywordTitle word
  | .symbol mark _ => symbolTitle mark

end TokenKind

/-- A token as it is shown. -/
def Token.text (token : Token) : String :=
  token.kind.title ++ "(" ++ token.kind.value.shown ++ ") at " ++ token.position.text

/-- The end of a query as it is shown. -/
def Position.endText (position : Position) : String := "EOF at " ++ position.text

end DocQuery
