/-
**From tokens to queries.**

```text
query      = SELECT [TOP count] ("*" | path {"," path}) FROM name [[AS] name]
             [WHERE condition] [ORDER BY key {"," key}] [LIMIT count]
key        = path [ASC | DESC]
path       = name {"." name or reserved word}
condition  = conjunct {OR conjunct}
conjunct   = comparison {AND comparison}
comparison = ranged [operator ranged]
ranged     = negated [BETWEEN negated AND negated]
negated    = NOT negated | operand
operand    = literal | parameter | path | name "(" [condition {"," condition}] ")"
           | "(" condition ")"
```

Each level of conditions is a function of its own that is given the parser of whole conditions for
what stands in parentheses. It may be used on fewer tokens only, and `condition` ties the knot by
the number of tokens.
-/

import DocQuery.Query.Lexer
import DocQuery.Query.Tree

namespace DocQuery

/-! ### Failures -/

/-- What is wrong with the tokens at a place. -/
inductive GrammarFault where
  | expectedSelect
  | expectedFrom
  | expectedSource
  | expectedAlias
  | expectedBy
  | expectedCount (clause : Keyword)
  | negativeCount (clause : Keyword) (value : Int)
  | expectedPath
  | expectedSegment
  | expectedRangeEnd
  | expectedClosing
  | expectedArgumentsEnd
  | expectedOperand
  | unexpectedToken (kind : TokenKind)
deriving DecidableEq

/-- What is wrong, and the position of the token at which it is. -/
structure GrammarError where
  fault : GrammarFault
  position : Position
  /-- Whether the place is behind the last token. -/
  atEnd : Bool
deriving DecidableEq

/-- What the parser knows beside the tokens: the position behind the last one, and the text they
were read from, if it is at hand. -/
structure Origin where
  stop : Position
  text : Option (List Char)

namespace Parser

/-- A failure at the first of some tokens. -/
def failure (origin : Origin) (fault : GrammarFault) : List Token → GrammarError
  | [] => ⟨fault, origin.stop, true⟩
  | token :: _ => ⟨fault, token.position, false⟩

/-- What is left behind a step that began at `here`. -/
abbrev Rest (here : List Token) := { rest : List Token // rest.length < here.length }

/-- What is left behind a step that may take no token. -/
abbrev Tail (here : List Token) := { rest : List Token // rest.length ≤ here.length }

/-- The result of a step that began at `here`. -/
abbrev Step (α : Type) (here : List Token) := Except GrammarError (α × Rest here)

/-- The rest of a rest. -/
def Rest.trans {here : List Token} (first : Rest here) (second : Rest first.val) : Rest here :=
  ⟨second.val, Nat.lt_trans second.property first.property⟩

/-- A tail of a rest. -/
def Rest.tail {here : List Token} (first : Rest here) (second : Tail first.val) : Rest here :=
  ⟨second.val, Nat.lt_of_le_of_lt second.property first.property⟩

/-- A rest is a tail. -/
def Rest.toTail {here : List Token} (rest : Rest here) : Tail here :=
  ⟨rest.val, Nat.le_of_lt rest.property⟩

/-! ### Tokens -/

/-- The tokens behind a given symbol, if it comes next. -/
def symbol? (mark : Symbol) : (here : List Token) → Option (Rest here)
  | [] => none
  | token :: rest =>
    match token.kind with
    | .symbol found _ => if found = mark then some ⟨rest, Nat.lt_succ_self _⟩ else none
    | _ => none

/-- The position of a given keyword and the tokens behind it, if it comes next. -/
def keyword? (word : Keyword) : (here : List Token) → Option (Position × Rest here)
  | [] => none
  | token :: rest =>
    match token.kind with
    | .keyword found _ =>
      if found = word then some (token.position, ⟨rest, Nat.lt_succ_self _⟩) else none
    | _ => none

/-- A name, its position and the tokens behind it, if one comes next. -/
def name? : (here : List Token) → Option (String × Position × Rest here)
  | [] => none
  | token :: rest =>
    match token.kind with
    | .identifier name => some (name, token.position, ⟨rest, Nat.lt_succ_self _⟩)
    | _ => none

/-- The tokens behind a given symbol, which must come next. -/
def expectSymbol (origin : Origin) (mark : Symbol) (fault : GrammarFault) (here : List Token) :
    Except GrammarError (Rest here) :=
  match symbol? mark here with
  | some rest => .ok rest
  | none => .error (failure origin fault here)

/-- The tokens behind a given keyword, which must come next. -/
def expectKeyword (origin : Origin) (word : Keyword) (fault : GrammarFault) (here : List Token) :
    Except GrammarError (Rest here) :=
  match keyword? word here with
  | some (_, rest) => .ok rest
  | none => .error (failure origin fault here)

/-- A name that must come next. -/
def expectName (origin : Origin) (fault : GrammarFault) (here : List Token) : Step String here :=
  match name? here with
  | some (name, _, rest) => .ok (name, rest)
  | none => .error (failure origin fault here)

/-- A number of documents that must come next. -/
def expectCount (origin : Origin) (clause : Keyword) (here : List Token) : Step Nat here :=
  match here with
  | [] => .error (failure origin (.expectedCount clause) [])
  | token :: rest =>
    match token.kind with
    | .integer value =>
      if value < 0 then .error ⟨.negativeCount clause value, token.position, false⟩
      else .ok (value.toNat, ⟨rest, Nat.lt_succ_self _⟩)
    | _ => .error (failure origin (.expectedCount clause) (token :: rest))

/-! ### Paths -/

/-- Whether a token can be a name behind a point. -/
def isSegment : TokenKind → Bool
  | .identifier _ => true
  | kind => kind.isReserved

/-- The spelling of a token that is a name in a path. Without the text, literals are spelt like the
values they are. -/
def segmentText (origin : Origin) (token : Token) : String :=
  match origin.text with
  | some text => String.ofList ((text.drop token.position.offset).take token.length)
  | none =>
    match token.kind.value with
    | .string spelling => spelling
    | value => value.shown

/-- A name behind a point. -/
def segment (origin : Origin) (here : List Token) : Step String here :=
  match here with
  | [] => .error (failure origin .expectedSegment [])
  | token :: rest =>
    if isSegment token.kind then .ok (segmentText origin token, ⟨rest, Nat.lt_succ_self _⟩)
    else .error (failure origin .expectedSegment (token :: rest))

/-- The further names of a path. -/
def moreSegments (origin : Origin) (here : List Token) :
    Except GrammarError (List String × Tail here) :=
  match symbol? .dot here with
  | none => .ok ([], ⟨here, Nat.le_refl _⟩)
  | some behindDot =>
    match segment origin behindDot.val with
    | .error e => .error e
    | .ok (name, behindName) =>
      match moreSegments origin behindName.val with
      | .error e => .error e
      | .ok (names, rest) =>
        .ok (name :: names, ((behindDot.trans behindName).tail rest).toTail)
termination_by here.length
decreasing_by exact (behindDot.trans behindName).property

/-- A path. -/
def path (origin : Origin) (here : List Token) : Step String here :=
  match name? here with
  | none => .error (failure origin .expectedPath here)
  | some (name, _, behindName) =>
    match moreSegments origin behindName.val with
    | .error e => .error e
    | .ok (names, rest) => .ok (".".intercalate (name :: names), behindName.tail rest)

/-! ### Conditions -/

/-- A parser of whole conditions that is only used on fewer than `bound` tokens. -/
abbrev Inner (bound : Nat) := (here : List Token) → here.length < bound → Step Expr here

/-- A parser of one level of conditions on at most `bound` tokens. -/
abbrev Level (bound : Nat) := (here : List Token) → here.length ≤ bound → Step Expr here

/-- The arguments of a function from one that begins here, up to the closing parenthesis. -/
def arguments (origin : Origin) {bound : Nat} (inner : Inner bound) (here : List Token)
    (fits : here.length < bound) : Step (List Expr) here :=
  match inner here fits with
  | .error e => .error e
  | .ok (argument, behind) =>
    match symbol? .comma behind.val with
    | some behindComma =>
      match arguments origin inner behindComma.val
          (Nat.lt_trans (behind.trans behindComma).property fits) with
      | .error e => .error e
      | .ok (more, rest) => .ok (argument :: more, (behind.trans behindComma).trans rest)
    | none =>
      match expectSymbol origin .rightParen .expectedArgumentsEnd behind.val with
      | .error e => .error e
      | .ok rest => .ok ([argument], behind.trans rest)
termination_by here.length
decreasing_by exact (behind.trans behindComma).property

/-- What stands behind the opening parenthesis of a call. -/
def callRest (origin : Origin) {bound : Nat} (inner : Inner bound) (here : List Token)
    (fits : here.length < bound) : Step (List Expr) here :=
  match symbol? .rightParen here with
  | some rest => .ok ([], rest)
  | none => arguments origin inner here fits

/-- A condition in parentheses behind the opening one. -/
def grouped (origin : Origin) {bound : Nat} (inner : Inner bound) (here : List Token)
    (fits : here.length < bound) : Step Expr here :=
  match inner here fits with
  | .error e => .error e
  | .ok (found, behind) =>
    match expectSymbol origin .rightParen .expectedClosing behind.val with
    | .error e => .error e
    | .ok rest => .ok (found, behind.trans rest)

/-- The constant that a literal stands for. -/
def literal? : TokenKind → Option Json
  | .string text => some (.string text)
  | .integer value => some (.int value)
  | .float value => some (.float value)
  | .boolean value => some (.bool value)
  | .null => some .null
  | _ => none

/-- A call of a function or a path, of which the first name has been read. -/
def named (origin : Origin) {bound : Nat} (inner : Inner bound) (name : String)
    (position : Position) (here : List Token) (fits : here.length < bound) :
    Except GrammarError (Expr × Tail here) :=
  match symbol? .leftParen here with
  | some behind =>
    match callRest origin inner behind.val (Nat.lt_trans behind.property fits) with
    | .error e => .error e
    | .ok (found, rest) => .ok (.call name found position, (behind.trans rest).toTail)
  | none =>
    match moreSegments origin here with
    | .error e => .error e
    | .ok (names, rest) => .ok (.property (".".intercalate (name :: names)) position, rest)

/-- An operand. -/
def operand (origin : Origin) {bound : Nat} (inner : Inner bound) : Level bound := fun here fits =>
  match here with
  | [] => .error (failure origin .expectedOperand [])
  | token :: rest =>
    let behind : Rest (token :: rest) := ⟨rest, Nat.lt_succ_self _⟩
    match literal? token.kind with
    | some value => .ok (.constant (.json value) token.position, behind)
    | none =>
      match token.kind with
      | .parameter name => .ok (.parameter name token.position, behind)
      | .symbol .leftParen _ =>
        match grouped origin inner rest (Nat.lt_of_lt_of_le (Nat.lt_succ_self _) fits) with
        | .error e => .error e
        | .ok (found, behind') => .ok (found, behind.trans behind')
      | .identifier name =>
        match named origin inner name token.position rest
            (Nat.lt_of_lt_of_le (Nat.lt_succ_self _) fits) with
        | .error e => .error e
        | .ok (found, tail) => .ok (found, behind.tail tail)
      | _ => .error (failure origin .expectedOperand (token :: rest))

/-- An operand behind any number of negations. -/
def negated (origin : Origin) {bound : Nat} (inner : Inner bound) (here : List Token)
    (fits : here.length ≤ bound) : Step Expr here :=
  match keyword? .not here with
  | none => operand origin inner here fits
  | some (position, behind) =>
    match negated origin inner behind.val (Nat.le_trans (Nat.le_of_lt behind.property) fits) with
    | .error e => .error e
    | .ok (found, rest) => .ok (.unary .not found position, behind.trans rest)
termination_by here.length
decreasing_by exact behind.property

/-- The bounds of a range behind its keyword. -/
def rangeBounds (origin : Origin) {bound : Nat} (inner : Inner bound) (here : List Token)
    (fits : here.length ≤ bound) : Step (Expr × Expr) here :=
  match negated origin inner here fits with
  | .error e => .error e
  | .ok (lower, behind) =>
    match expectKeyword origin .and .expectedRangeEnd behind.val with
    | .error e => .error e
    | .ok behindAnd =>
      let rest := behind.trans behindAnd
      match negated origin inner rest.val (Nat.le_trans (Nat.le_of_lt rest.property) fits) with
      | .error e => .error e
      | .ok (upper, rest') => .ok ((lower, upper), rest.trans rest')

/-- An operand, or the test whether it lies in a range. -/
def ranged (origin : Origin) {bound : Nat} (inner : Inner bound) : Level bound := fun here fits =>
  match negated origin inner here fits with
  | .error e => .error e
  | .ok (value, behind) =>
    match keyword? .between behind.val with
    | none => .ok (value, behind)
    | some (position, behindWord) =>
      let rest := behind.trans behindWord
      match rangeBounds origin inner rest.val (Nat.le_trans (Nat.le_of_lt rest.property) fits) with
      | .error e => .error e
      | .ok ((lower, upper), rest') => .ok (.between value lower upper position, rest.trans rest')

/-- The operator that a symbol is between two operands. -/
def operatorOf? : TokenKind → Option Operator
  | .symbol .equal _ => some .equal
  | .symbol .notEqual _ => some .notEqual
  | .symbol .greater _ => some .greater
  | .symbol .greaterOrEqual _ => some .greaterOrEqual
  | .symbol .less _ => some .less
  | .symbol .lessOrEqual _ => some .lessOrEqual
  | _ => none

/-- A comparison operator, its position and the tokens behind it, if one comes next. -/
def comparison? : (here : List Token) → Option (Operator × Position × Rest here)
  | [] => none
  | token :: rest =>
    (operatorOf? token.kind).map fun operator =>
      (operator, token.position, ⟨rest, Nat.lt_succ_self _⟩)

/-- A value, or the comparison of two of them. -/
def comparison (origin : Origin) {bound : Nat} (inner : Inner bound) : Level bound :=
  fun here fits =>
  match ranged origin inner here fits with
  | .error e => .error e
  | .ok (left, behind) =>
    match comparison? behind.val with
    | none => .ok (left, behind)
    | some (operator, position, behindOperator) =>
      let rest := behind.trans behindOperator
      match ranged origin inner rest.val (Nat.le_trans (Nat.le_of_lt rest.property) fits) with
      | .error e => .error e
      | .ok (right, rest') => .ok (.binary left operator right position, rest.trans rest')

/-- Further operands of a logical operator, joined to what was read before from left to right. -/
def moreOperands {bound : Nat} (word : Keyword) (operator : Operator) (level : Level bound)
    (left : Expr) (here : List Token) (fits : here.length ≤ bound) :
    Except GrammarError (Expr × Tail here) :=
  match keyword? word here with
  | none => .ok (left, ⟨here, Nat.le_refl _⟩)
  | some (position, behind) =>
    match level behind.val (Nat.le_trans (Nat.le_of_lt behind.property) fits) with
    | .error e => .error e
    | .ok (right, behindRight) =>
      let rest := behind.trans behindRight
      match moreOperands word operator level (.binary left operator right position) rest.val
          (Nat.le_trans (Nat.le_of_lt rest.property) fits) with
      | .error e => .error e
      | .ok (found, tail) => .ok (found, (rest.tail tail).toTail)
termination_by here.length
decreasing_by exact (behind.trans behindRight).property

/-- Operands of a logical operator, at least one. -/
def operands {bound : Nat} (word : Keyword) (operator : Operator) (level : Level bound) :
    Level bound := fun here fits =>
  match level here fits with
  | .error e => .error e
  | .ok (left, behind) =>
    match moreOperands word operator level left behind.val
        (Nat.le_trans (Nat.le_of_lt behind.property) fits) with
    | .error e => .error e
    | .ok (found, tail) => .ok (found, behind.tail tail)

/-- A condition, given the parser of conditions on fewer tokens. -/
def conditionWith (origin : Origin) {bound : Nat} (inner : Inner bound) : Level bound :=
  operands .or .or (operands .and .and (comparison origin inner))

/-- A condition. -/
def condition (origin : Origin) (here : List Token) : Step Expr here :=
  conditionWith origin (fun rest _ => condition origin rest) here (Nat.le_refl _)
termination_by here.length

/-! ### Clauses -/

/-- Items with commas between them, at least one. -/
def separated {α : Type} (item : (here : List Token) → Step α here) (here : List Token) :
    Step (List α) here :=
  match item here with
  | .error e => .error e
  | .ok (first, behind) =>
    match symbol? .comma behind.val with
    | none => .ok ([first], behind)
    | some behindComma =>
      match separated item behindComma.val with
      | .error e => .error e
      | .ok (more, rest) => .ok (first :: more, (behind.trans behindComma).trans rest)
termination_by here.length
decreasing_by exact (behind.trans behindComma).property

/-- A key of the order. -/
def orderKey (origin : Origin) (here : List Token) : Step OrderKey here :=
  match path origin here with
  | .error e => .error e
  | .ok (found, behind) =>
    match keyword? .desc behind.val with
    | some (_, rest) => .ok (⟨found, true⟩, behind.trans rest)
    | none =>
      match keyword? .asc behind.val with
      | some (_, rest) => .ok (⟨found, false⟩, behind.trans rest)
      | none => .ok (⟨found, false⟩, behind)

/-- What a clause holds if the keyword that begins it comes next. -/
def clause? {α : Type} (word : Keyword) (body : List Token → Except GrammarError (α × List Token))
    (here : List Token) : Except GrammarError (Option α × List Token) :=
  match keyword? word here with
  | none => .ok (none, here)
  | some (_, rest) =>
    match body rest.val with
    | .error e => .error e
    | .ok (found, rest) => .ok (some found, rest)

/-- The result of a step without the proof that it took tokens. -/
def forget {α : Type} {here : List Token} (step : Step α here) :
    Except GrammarError (α × List Token) :=
  match step with
  | .error e => .error e
  | .ok (found, rest) => .ok (found, rest.val)

/-- What is selected. -/
def selection (origin : Origin) (here : List Token) :
    Except GrammarError (Selection × List Token) :=
  match symbol? .star here with
  | some rest => .ok (.all, rest.val)
  | none =>
    match separated (path origin) here with
    | .error e => .error e
    | .ok (names, rest) => .ok (.paths names, rest.val)

/-- The alias behind the name of the collection, if there is one. -/
def alias? (origin : Origin) (here : List Token) :
    Except GrammarError (Option String × List Token) :=
  match keyword? .as here with
  | some (_, behind) =>
    match expectName origin .expectedAlias behind.val with
    | .error e => .error e
    | .ok (name, rest) => .ok (some name, rest.val)
  | none =>
    match name? here with
    | some (name, _, rest) => .ok (some name, rest.val)
    | none => .ok (none, here)

/-- The collection behind its keyword. -/
def source (origin : Origin) (here : List Token) : Except GrammarError (Source × List Token) := do
  let (name, rest) ← expectName origin .expectedSource here
  let (reference, rest) ← alias? origin rest.val
  return (⟨name, reference⟩, rest)

/-- The order behind its first keyword. -/
def orderKeys (origin : Origin) (here : List Token) :
    Except GrammarError (List OrderKey × List Token) := do
  let rest ← expectKeyword origin .by .expectedBy here
  forget (separated (orderKey origin) rest.val)

/-- A query that takes all tokens. -/
def query (origin : Origin) (tokens : List Token) : Except GrammarError Query := do
  let rest ← expectKeyword origin .select .expectedSelect tokens
  let (top, rest) ← clause? .top (fun here => forget (expectCount origin .top here)) rest.val
  let (selection, rest) ← selection origin rest
  let rest ← expectKeyword origin .from .expectedFrom rest
  let (source, rest) ← source origin rest.val
  let (condition, rest) ← clause? .where (fun here => forget (condition origin here)) rest
  let (order, rest) ← clause? .order (orderKeys origin) rest
  let (limit, rest) ← clause? .limit (fun here => forget (expectCount origin .limit here)) rest
  match rest with
  | [] => return ⟨selection, top, source, condition, order, limit⟩
  | token :: _ => throw (failure origin (.unexpectedToken token.kind) rest)

end Parser

end DocQuery
