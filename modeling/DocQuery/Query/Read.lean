/-
**Reading a query.**

* `Query.read`: the query that a text holds;
* `Query.ofTokens`: the query that tokens form, with or without the text they were read from;
* `SyntaxError`: why there is none, where, what stands there, and what could help. A text without
  anything but white space has no place to point to.
-/

import DocQuery.Query.Parser

namespace DocQuery

/-- Why a text is no query. -/
inductive SyntaxError where
  /-- There is no text, or nothing but white space. -/
  | empty
  /-- Some characters form no token. -/
  | lexical (error : LexicalError)
  /-- The tokens form no query. The fragment is the text from the position on, if it is at hand. -/
  | grammar (error : GrammarError) (fragment : Option (List Char))
deriving DecidableEq

/-! ### Messages -/

/-- What is wrong with some characters. -/
def LexicalFault.message : LexicalFault → String
  | .unclosedString => "Unclosed string literal"
  | .parameterName => "Expected parameter name after '@'"
  | .loneExclamation => "Expected '=' after '!'"
  | .oversizedInteger => "Integer with more than " ++ toString maxIntegerDigits ++ " digits"
  | .unexpected c => "Unexpected character: " ++ quote (String.ofList [c])

/-- What could help. -/
def LexicalFault.suggestion : LexicalFault → Option String
  | .unclosedString => some "Add closing single quote (')"
  | .parameterName => some "Parameters look like @name"
  | .loneExclamation => some "Use != for inequality"
  | .oversizedInteger | .unexpected _ => none

/-- What is wrong with some tokens. -/
def GrammarFault.message : GrammarFault → String
  | .expectedSelect => "Expected SELECT"
  | .expectedFrom => "Expected FROM"
  | .expectedSource => "Expected collection name after FROM"
  | .expectedAlias => "Expected alias after AS"
  | .expectedBy => "Expected BY after ORDER"
  | .expectedCount clause => "Expected non-negative integer after " ++ TokenKind.keywordTitle clause
  | .negativeCount clause value =>
    TokenKind.keywordTitle clause ++ " value must be non-negative, got " ++ toString value
  | .expectedPath => "Expected property path"
  | .expectedSegment => "Expected property name after '.'"
  | .expectedRangeEnd => "Expected AND in BETWEEN expression"
  | .expectedClosing => "Expected closing parenthesis ')'"
  | .expectedArgumentsEnd => "Expected ')' after function arguments"
  | .expectedOperand => "Expected literal, parameter, property path, function call or '('"
  | .unexpectedToken kind => "Unexpected token " ++ kind.value.shown

/-- What could help. -/
def GrammarFault.suggestion : GrammarFault → Option String
  | .expectedSelect => some "Queries start with SELECT"
  | .expectedRangeEnd => some "Use: value BETWEEN low AND high"
  | .expectedOperand => some "Check expression syntax"
  | .unexpectedToken _ => some "Check for missing operators, commas or parentheses"
  | _ => none

namespace SyntaxError

/-- What is wrong. -/
def reason : SyntaxError → String
  | .empty => "Query text is empty"
  | .lexical error => "Lexical error: " ++ error.fault.message
  | .grammar error _ =>
    "Parse error: " ++ error.fault.message ++ (if error.atEnd then ", got end of query" else "")

/-- Where it is. -/
def position : SyntaxError → Option Position
  | .empty => none
  | .lexical error => some error.position
  | .grammar error _ => some error.position

/-- The text from there on, unless there is none. -/
def fragment : SyntaxError → Option String
  | .empty => none
  | .lexical error => some (String.ofList error.fragment)
  | .grammar _ fragment =>
    match fragment with
    | some (c :: cs) => some (String.ofList (c :: cs))
    | _ => none

/-- What could help. -/
def suggestion : SyntaxError → Option String
  | .empty => none
  | .lexical error => error.fault.suggestion
  | .grammar error _ => error.fault.suggestion

/-- The message: what is wrong, where, at which text, and what could help. -/
def message (error : SyntaxError) : String :=
  error.reason ++
    (error.position.map fun position => " at " ++ position.text).getD "" ++
    (error.fragment.map fun fragment => " near " ++ quote fragment).getD "" ++
    (error.suggestion.map fun suggestion => "\n  Suggestion: " ++ suggestion).getD ""

end SyntaxError

/-! ### Reading -/

/-- The query that tokens form. The text serves to point at failures and to spell reserved words in
paths. -/
def Query.ofTokens (tokens : List Token) (stop : Position) (text : Option (List Char)) :
    Except SyntaxError Query :=
  match Parser.query ⟨stop, text⟩ tokens with
  | .ok query => .ok query
  | .error error => .error (.grammar error (text.map (List.drop error.position.offset)))

/-- The query that characters hold, read with or without the text at hand for the parser. -/
def Query.readWith (keepText : Bool) (text : List Char) : Except SyntaxError Query :=
  match scan text with
  | .error error => .error (.lexical error)
  | .ok (tokens, stop) => Query.ofTokens tokens stop (if keepText then some text else none)

/-- The query that a text holds. -/
def Query.read (text : String) : Except SyntaxError Query :=
  if (trimBlanks text.toList).isEmpty then .error .empty else Query.readWith true text.toList

/-- The query that is given as a text. Any other value counts as an empty text. -/
def Query.ofJson : Json → Except SyntaxError Query
  | .string text => Query.read text
  | _ => .error .empty

end DocQuery
