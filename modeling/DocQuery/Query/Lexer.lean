/-
**From characters to tokens.**

* `Lexeme`: the first token of some characters, with a proof that its characters and the ones behind
  it are all there are;
* `lexeme`: reads the first token, which must begin at once;
* `scan`: reads all tokens of a text, between which there may be white space.

A token begins wherever the one before it ends, and takes as many characters as it can.
-/

import DocQuery.Query.Token
import DocQuery.Text.CharClass

namespace DocQuery

/-- Why no token begins at a place. -/
inductive LexicalFault where
  /-- A text has no closing quotation mark. -/
  | unclosedString
  /-- No name follows the sign of a parameter. -/
  | parameterName
  /-- An exclamation mark is not followed by an equals sign. -/
  | loneExclamation
  /-- An integer has too many digits. -/
  | oversizedInteger
  /-- A character begins no token. -/
  | unexpected (c : Char)
deriving DecidableEq, Repr

/-- The first token of the characters `here`. -/
structure Lexeme (here : List Char) where
  kind : TokenKind
  spelling : List Char
  rest : List Char
  complete : spelling ++ rest = here
  nonempty : spelling ≠ []

theorem Lexeme.length_rest_lt {here : List Char} (lexeme : Lexeme here) :
    lexeme.rest.length < here.length := by
  have size := congrArg List.length lexeme.complete
  have positive := List.length_pos_iff.mpr lexeme.nonempty
  simp only [List.length_append] at size
  omega

/-- A token of one character. -/
def Lexeme.single (kind : TokenKind) (c : Char) (rest : List Char) : Lexeme (c :: rest) :=
  ⟨kind, [c], rest, rfl, by simp⟩

/-- A token of two characters. -/
def Lexeme.double (kind : TokenKind) (c d : Char) (rest : List Char) : Lexeme (c :: d :: rest) :=
  ⟨kind, [c, d], rest, rfl, by simp⟩

/-! ### Names and numbers -/

/-- A character that begins a name. -/
def isNameStart (c : Char) : Bool := isLetter c || c == '_'

/-- A character that continues a name. -/
def isNameChar (c : Char) : Bool := isAlphanumeric c || c == '_'

/-- A token that begins with `first` and goes on with the characters of a name. -/
def nameLexeme (first : Char) (rest : List Char) (kind : List Char → TokenKind) :
    Lexeme (first :: rest) where
  kind := kind (rest.takeWhile isNameChar)
  spelling := first :: rest.takeWhile isNameChar
  rest := rest.dropWhile isNameChar
  complete := by simp
  nonempty := by simp

/-- Whether a point in front of some characters belongs to a number. Before a letter or an
underscore it separates the names of a path. -/
def isDecimalPoint : List Char → Bool
  | [] => true
  | c :: _ => !isNameStart c

/-- The value of a sequence of ASCII digits. -/
def asciiValue (digits : List Char) : Nat :=
  digits.foldl (fun value c => 10 * value + asciiDigitValue c) 0

/-- The characters of a number behind its sign, whether it has a point, and the rest. -/
def numberChars (here : List Char) : List Char × Option (List Char) × List Char :=
  let whole := here.takeWhile isAsciiDigit
  match here.dropWhile isAsciiDigit with
  | '.' :: rest =>
    if isDecimalPoint rest then
      (whole, some (rest.takeWhile isAsciiDigit), rest.dropWhile isAsciiDigit)
    else (whole, none, '.' :: rest)
  | rest => (whole, none, rest)

/-- The characters of a number as they stand. -/
def numberSpelling (whole : List Char) (decimals : Option (List Char)) : List Char :=
  match decimals with
  | some digits => whole ++ '.' :: digits
  | none => whole

/-- Whether a number, from its first digit on, is an integer with too many digits. -/
def isOversized (here : List Char) : Bool :=
  (numberChars here).2.1.isNone && maxIntegerDigits < (numberChars here).1.length

theorem numberChars_complete (here : List Char) :
    numberSpelling (numberChars here).1 (numberChars here).2.1 ++ (numberChars here).2.2 =
      here := by
  have whole := List.takeWhile_append_dropWhile (p := isAsciiDigit) (l := here)
  unfold numberChars
  split
  · next rest found =>
    rw [found] at whole
    split
    · simp only [numberSpelling, List.append_assoc, List.cons_append]
      rw [List.takeWhile_append_dropWhile]
      exact whole
    · simpa [numberSpelling] using whole
  · simp [numberSpelling, whole]

/-- A number: whole without a point, otherwise a double precision number. -/
def numberKind (negative : Bool) (whole : List Char) (decimals : Option (List Char)) : TokenKind :=
  match decimals with
  | some digits =>
    .float (.ofDecimal negative ⟨asciiValue (whole ++ digits), -(digits.length : Int)⟩)
  | none =>
    let value : Int := asciiValue whole
    .integer (if negative then -value else value)

/-- A number that begins with the digit `first`. -/
def unsignedLexeme (first : Char) (rest : List Char) (digit : isAsciiDigit first = true) :
    Lexeme (first :: rest) where
  kind := numberKind false (numberChars (first :: rest)).1 (numberChars (first :: rest)).2.1
  spelling := numberSpelling (numberChars (first :: rest)).1 (numberChars (first :: rest)).2.1
  rest := (numberChars (first :: rest)).2.2
  complete := numberChars_complete _
  nonempty := by
    have whole : (numberChars (first :: rest)).1 ≠ [] := by
      unfold numberChars
      split <;> simp only [List.takeWhile_cons, digit]
      · split <;> simp
      · simp
    unfold numberSpelling
    split
    · simp
    · exact whole

/-- A number behind a minus sign. -/
def negativeLexeme (rest : List Char) : Lexeme ('-' :: rest) where
  kind := numberKind true (numberChars rest).1 (numberChars rest).2.1
  spelling := '-' :: numberSpelling (numberChars rest).1 (numberChars rest).2.1
  rest := (numberChars rest).2.2
  complete := by rw [List.cons_append, numberChars_complete]
  nonempty := by simp

/-! ### Texts -/

/-- The characters up to a quotation mark, and the ones behind it. -/
def untilQuote : List Char → Option (List Char × List Char)
  | [] => none
  | '\'' :: rest => some ([], rest)
  | c :: rest => (untilQuote rest).map fun (text, rest) => (c :: text, rest)

theorem untilQuote_complete {here text rest : List Char}
    (found : untilQuote here = some (text, rest)) : text ++ '\'' :: rest = here := by
  fun_induction untilQuote here generalizing text with
  | case1 => simp at found
  | case2 => simp at found; simp [found]
  | case3 c others _ ih =>
    obtain ⟨⟨inner, behind⟩, inside, equal⟩ := Option.map_eq_some_iff.mp found
    simp only [Prod.mk.injEq] at equal
    obtain ⟨rfl, rfl⟩ := equal
    simp [ih inside]

/-- A text behind its opening quotation mark. -/
def stringLexeme (rest : List Char) : Except LexicalFault (Lexeme ('\'' :: rest)) :=
  match found : untilQuote rest with
  | none => .error .unclosedString
  | some (text, behind) => .ok {
      kind := .string (String.ofList text)
      spelling := '\'' :: text ++ ['\'']
      rest := behind
      complete := by simp [← untilQuote_complete found]
      nonempty := by simp }

/-! ### Tokens -/

/-- A parameter behind its sign. -/
def parameterLexeme (rest : List Char) : Except LexicalFault (Lexeme ('@' :: rest)) :=
  match rest with
  | c :: more =>
    if isNameStart c then
      .ok (nameLexeme '@' (c :: more) fun name => .parameter (String.ofList name))
    else .error .parameterName
  | [] => .error .parameterName

/-- A token of punctuation. -/
def symbolLexeme : (here : List Char) → here ≠ [] → Except LexicalFault (Lexeme here)
  | '!' :: '=' :: rest, _ => .ok (.double (.symbol .notEqual "!=") '!' '=' rest)
  | '<' :: '>' :: rest, _ => .ok (.double (.symbol .notEqual "<>") '<' '>' rest)
  | '<' :: '=' :: rest, _ => .ok (.double (.symbol .lessOrEqual "<=") '<' '=' rest)
  | '>' :: '=' :: rest, _ => .ok (.double (.symbol .greaterOrEqual ">=") '>' '=' rest)
  | '<' :: rest, _ => .ok (.single (.symbol .less "<") '<' rest)
  | '>' :: rest, _ => .ok (.single (.symbol .greater ">") '>' rest)
  | '*' :: rest, _ => .ok (.single (.symbol .star "*") '*' rest)
  | '.' :: rest, _ => .ok (.single (.symbol .dot ".") '.' rest)
  | ',' :: rest, _ => .ok (.single (.symbol .comma ",") ',' rest)
  | '(' :: rest, _ => .ok (.single (.symbol .leftParen "(") '(' rest)
  | ')' :: rest, _ => .ok (.single (.symbol .rightParen ")") ')' rest)
  | '=' :: rest, _ => .ok (.single (.symbol .equal "=") '=' rest)
  | '!' :: _, _ => .error .loneExclamation
  | c :: _, _ => .error (.unexpected c)

/-- Whether some characters begin with a digit. -/
def startsWithDigit : List Char → Bool
  | c :: _ => isAsciiDigit c
  | [] => false

/-- The token that begins with `first`. -/
def lexeme (first : Char) (rest : List Char) : Except LexicalFault (Lexeme (first :: rest)) :=
  if quoted : first = '\'' then quoted ▸ stringLexeme rest
  else if digit : isAsciiDigit first then
    if isOversized (first :: rest) then .error .oversizedInteger
    else .ok (unsignedLexeme first rest digit)
  else if minus : first = '-' ∧ startsWithDigit rest then
    if isOversized rest then .error .oversizedInteger else .ok (minus.1 ▸ negativeLexeme rest)
  else if isNameStart first then
    .ok (nameLexeme first rest fun name => .ofWord (String.ofList (first :: name)))
  else if parameter : first = '@' then parameter ▸ parameterLexeme rest
  else symbolLexeme (first :: rest) (by simp)

/-- Where and why the reading of tokens ends. The fragment is all that is left there. -/
structure LexicalError where
  fault : LexicalFault
  position : Position
  fragment : List Char
deriving DecidableEq, Repr

/-- The tokens of the characters `here`, of which the first is at `start`, and the position behind
the last character. -/
def scanFrom (here : List Char) (start : Position) :
    Except LexicalError (List Token × Position) :=
  match here with
  | [] => .ok ([], start)
  | c :: rest =>
    if isBlank c then scanFrom rest (start.next c)
    else
      match lexeme c rest with
      | .error fault => .error ⟨fault, start, c :: rest⟩
      | .ok found =>
        match scanFrom found.rest (start.after found.spelling) with
        | .error failure => .error failure
        | .ok (tokens, stop) => .ok (⟨found.kind, start, found.spelling.length⟩ :: tokens, stop)
termination_by here.length
decreasing_by
  · simp
  · exact found.length_rest_lt

/-- The tokens of a text, and the position of its end. -/
def scan (text : List Char) : Except LexicalError (List Token × Position) :=
  scanFrom text .origin

end DocQuery
