/-
**The grammar of queries.**

A derivation is a tree whose leaves are the tokens of a query, one constructor for each alternative
of a rule:

```text
query      = SELECT [TOP integer] ("*" | path {"," path}) FROM name [[AS] name]
             [WHERE joined-or] [ORDER BY key {"," key}] [LIMIT integer]
key        = path [ASC | DESC]
path       = name {"." (name | reserved word)}
joined-or  = joined-and {OR joined-and}
joined-and = comparison {AND comparison}
comparison = ranged [operator ranged]
ranged     = negated [BETWEEN negated AND negated]
negated    = NOT negated | operand
operand    = literal | parameter | path | name "(" [joined-or {"," joined-or}] ")"
           | "(" joined-or ")"
```

* `Phrase`: the derivations of conditions and of their parts, `Phrase.tokens` the tokens they
  derive, and `Phrase.value` what they stand for. A further operand is joined to everything before
  it, so that `OR` and `AND` associate to the left;
* `QueryPhrase`: the derivations of queries, with `QueryPhrase.tokens` and `QueryPhrase.value`;
* `Category.Stops`: the tokens behind a phrase do not continue it;
* `Phrase.exists_head`: a condition has a first token, and what that can be.
-/

import DocQuery.Query.Parser

namespace DocQuery

namespace Grammar

/-! ### Tokens -/

/-- A token is a given keyword. -/
def IsKeyword (word : Keyword) (kind : TokenKind) : Prop :=
  ∃ spelling, kind = .keyword word spelling

/-- A token is a given symbol. -/
def IsSymbol (mark : Symbol) (kind : TokenKind) : Prop := ∃ spelling, kind = .symbol mark spelling

/-- A token can stand behind the point in a path: it is a name or a reserved word. -/
inductive IsSegment : TokenKind → Prop
  | identifier (name : String) : IsSegment (.identifier name)
  | keyword (word : Keyword) (spelling : String) : IsSegment (.keyword word spelling)
  | boolean (value : Bool) : IsSegment (.boolean value)
  | null : IsSegment .null

/-- A token is a name. -/
inductive Names : TokenKind → String → Prop
  | identifier (name : String) : Names (.identifier name) name

/-- A token is the name of a parameter. -/
inductive Binds : TokenKind → String → Prop
  | parameter (name : String) : Binds (.parameter name) name

/-- A token is an integer. -/
inductive Counts : TokenKind → Int → Prop
  | integer (value : Int) : Counts (.integer value) value

/-- A token is a literal with a value. -/
inductive Denotes : TokenKind → Json → Prop
  | string (text : String) : Denotes (.string text) (.string text)
  | integer (value : Int) : Denotes (.integer value) (.int value)
  | float (value : Binary64) : Denotes (.float value) (.float value)
  | boolean (value : Bool) : Denotes (.boolean value) (.bool value)
  | null : Denotes .null .null

/-- A token is a comparison operator. -/
inductive Compares : TokenKind → Operator → Prop
  | equal (spelling : String) : Compares (.symbol .equal spelling) .equal
  | notEqual (spelling : String) : Compares (.symbol .notEqual spelling) .notEqual
  | greater (spelling : String) : Compares (.symbol .greater spelling) .greater
  | greaterOrEqual (spelling : String) :
    Compares (.symbol .greaterOrEqual spelling) .greaterOrEqual
  | less (spelling : String) : Compares (.symbol .less spelling) .less
  | lessOrEqual (spelling : String) : Compares (.symbol .lessOrEqual spelling) .lessOrEqual

/-- A keyword in a derivation. -/
abbrev Word (word : Keyword) := { token : Token // IsKeyword word token.kind }

/-- A symbol in a derivation. -/
abbrev Mark (mark : Symbol) := { token : Token // IsSymbol mark token.kind }

/-- A token in a derivation with the value that it stands for. -/
structure Leaf {α : Type} (stands : TokenKind → α → Prop) where
  token : Token
  value : α
  fits : stands token.kind value

/-- A token stands for one value only. -/
class Functional {α : Type} (stands : TokenKind → α → Prop) : Prop where
  unique : ∀ {kind : TokenKind} {value other : α}, stands kind value → stands kind other →
    value = other

instance : Functional Names := ⟨by rintro _ _ _ ⟨⟩ ⟨⟩; rfl⟩
instance : Functional Binds := ⟨by rintro _ _ _ ⟨⟩ ⟨⟩; rfl⟩
instance : Functional Counts := ⟨by rintro _ _ _ ⟨⟩ ⟨⟩; rfl⟩
instance : Functional Denotes := ⟨by rintro _ _ _ ⟨⟩ ⟨⟩ <;> rfl⟩
instance : Functional Compares := ⟨by rintro _ _ _ ⟨⟩ ⟨⟩ <;> rfl⟩

theorem Leaf.eq_of_token {α : Type} {stands : TokenKind → α → Prop} [Functional stands]
    {leaf other : Leaf stands} (same : leaf.token = other.token) : leaf = other := by
  rcases leaf with ⟨token, value, fits⟩
  rcases other with ⟨token', value', fits'⟩
  obtain rfl : token = token' := same
  obtain rfl : value = value' := Functional.unique fits fits'
  rfl

/-! ### Paths -/

/-- A point in a path and the name behind it. -/
structure Segment where
  dot : Mark .dot
  name : Token
  fits : IsSegment name.kind

/-- The tokens of a point and a name. -/
def Segment.tokens (segment : Segment) : List Token := [segment.dot.val, segment.name]

/-- The derivation of a path. -/
structure Path where
  first : Leaf Names
  more : List Segment

namespace Path

/-- The tokens of a path. -/
def tokens (path : Path) : List Token := path.first.token :: path.more.flatMap Segment.tokens

/-- The names of a path, with points between them. -/
def value (origin : Origin) (path : Path) : String :=
  ".".intercalate
    (path.first.value :: path.more.map fun segment => Parser.segmentText origin segment.name)

end Path

/-! ### Conditions -/

/-- The operators that join any number of operands. -/
inductive Junction where
  | or
  | and

/-- The keyword of a junction. -/
def Junction.keyword : Junction → Keyword
  | .or => .or
  | .and => .and

/-- The operator of a junction. -/
def Junction.operator : Junction → Operator
  | .or => .or
  | .and => .and

/-- The levels of conditions, from the one that binds least to the one that binds most. -/
inductive Level where
  /-- Operands of a junction, at least one. -/
  | joined (junction : Junction)
  | comparison
  | ranged
  | negated
  | operand

/-- The level of the operands of a junction. -/
def Junction.part : Junction → Level
  | .or => .joined .and
  | .and => .comparison

/-- The categories of the grammar of conditions. -/
inductive Category where
  | level (level : Level)
  /-- Further operands of a junction, each with the operator in front of it. -/
  | further (junction : Junction)
  /-- The arguments of a function. -/
  | arguments
  /-- Further arguments, each with a comma in front of it. -/
  | moreArguments

/-- The derivations of a category. -/
inductive Phrase : Category → Type
  | joined {junction : Junction} (first : Phrase (.level junction.part))
      (more : Phrase (.further junction)) : Phrase (.level (.joined junction))
  | finished {junction : Junction} : Phrase (.further junction)
  | further {junction : Junction} (word : Word junction.keyword)
      (next : Phrase (.level junction.part)) (more : Phrase (.further junction)) :
      Phrase (.further junction)
  | single (inner : Phrase (.level .ranged)) : Phrase (.level .comparison)
  | compared (left : Phrase (.level .ranged)) (operator : Leaf Compares)
      (right : Phrase (.level .ranged)) : Phrase (.level .comparison)
  | plain (inner : Phrase (.level .negated)) : Phrase (.level .ranged)
  | between (inner : Phrase (.level .negated)) (word : Word .between)
      (lower : Phrase (.level .negated)) (joint : Word .and) (upper : Phrase (.level .negated)) :
      Phrase (.level .ranged)
  | positive (inner : Phrase (.level .operand)) : Phrase (.level .negated)
  | not (word : Word .not) (inner : Phrase (.level .negated)) : Phrase (.level .negated)
  | literal (leaf : Leaf Denotes) : Phrase (.level .operand)
  | parameter (leaf : Leaf Binds) : Phrase (.level .operand)
  | property (path : Path) : Phrase (.level .operand)
  | call (name : Leaf Names) (opening : Mark .leftParen) (given : Phrase .arguments)
      (closing : Mark .rightParen) : Phrase (.level .operand)
  | group (opening : Mark .leftParen) (inner : Phrase (.level (.joined .or)))
      (closing : Mark .rightParen) : Phrase (.level .operand)
  | noArguments : Phrase .arguments
  | someArguments (first : Phrase (.level (.joined .or))) (more : Phrase .moreArguments) :
      Phrase .arguments
  | noFurtherArgument : Phrase .moreArguments
  | furtherArgument (comma : Mark .comma) (next : Phrase (.level (.joined .or)))
      (more : Phrase .moreArguments) : Phrase .moreArguments

/-- What the phrases of a category stand for. Further operands are joined to what stands before
them. -/
abbrev Category.Value : Category → Type
  | .level _ => Expr
  | .further _ => Expr → Expr
  | .arguments | .moreArguments => List Expr

namespace Phrase

/-- The tokens that a phrase derives. -/
def tokens : {category : Category} → Phrase category → List Token
  | _, .joined first more => first.tokens ++ more.tokens
  | _, .finished => []
  | _, .further word next more => word.val :: (next.tokens ++ more.tokens)
  | _, .single inner => inner.tokens
  | _, .compared left operator right => left.tokens ++ operator.token :: right.tokens
  | _, .plain inner => inner.tokens
  | _, .between inner word lower joint upper =>
    inner.tokens ++ word.val :: (lower.tokens ++ joint.val :: upper.tokens)
  | _, .positive inner => inner.tokens
  | _, .not word inner => word.val :: inner.tokens
  | _, .literal leaf => [leaf.token]
  | _, .parameter leaf => [leaf.token]
  | _, .property path => path.tokens
  | _, .call name opening given closing =>
    name.token :: opening.val :: (given.tokens ++ [closing.val])
  | _, .group opening inner closing => opening.val :: (inner.tokens ++ [closing.val])
  | _, .noArguments => []
  | _, .someArguments first more => first.tokens ++ more.tokens
  | _, .noFurtherArgument => []
  | _, .furtherArgument comma next more => comma.val :: (next.tokens ++ more.tokens)

/-- What a phrase stands for. A node stands where its operator or its first token does. -/
def value (origin : Origin) : {category : Category} → Phrase category → category.Value
  | _, .joined first more => more.value origin (first.value origin)
  | _, .finished => id
  | _, @further junction word next more => fun left =>
    more.value origin (.binary left junction.operator (next.value origin) word.val.position)
  | _, .single inner => inner.value origin
  | _, .compared left operator right =>
    .binary (left.value origin) operator.value (right.value origin) operator.token.position
  | _, .plain inner => inner.value origin
  | _, .between inner word lower _ upper =>
    .between (inner.value origin) (lower.value origin) (upper.value origin) word.val.position
  | _, .positive inner => inner.value origin
  | _, .not word inner => .unary .not (inner.value origin) word.val.position
  | _, .literal leaf => .constant (.json leaf.value) leaf.token.position
  | _, .parameter leaf => .parameter leaf.value leaf.token.position
  | _, .property path => .property (path.value origin) path.first.token.position
  | _, .call name _ given _ => .call name.value (given.value origin) name.token.position
  | _, .group _ inner _ => inner.value origin
  | _, .noArguments => []
  | _, .someArguments first more => first.value origin :: more.value origin
  | _, .noFurtherArgument => []
  | _, .furtherArgument _ next more => next.value origin :: more.value origin

end Phrase

/-! ### Queries -/

/-- Items with commas between them, at least one. -/
structure Separated (α : Type) where
  first : α
  more : List (Mark .comma × α)

namespace Separated

variable {α : Type}

/-- The tokens of items with commas between them. -/
def tokens (item : α → List Token) (items : Separated α) : List Token :=
  item items.first ++ items.more.flatMap fun next => next.1.val :: item next.2

/-- The items without the commas. -/
def items (items : Separated α) : List α := items.first :: items.more.map Prod.snd

end Separated

/-- A clause that may be left out: a keyword and what stands behind it. -/
abbrev Clause (word : Keyword) (α : Type) := Option (Word word × α)

/-- The tokens of a clause. -/
def Clause.tokens {word : Keyword} {α : Type} (body : α → List Token) :
    Clause word α → List Token
  | none => []
  | some (first, found) => first.val :: body found

/-- What is selected. -/
inductive SelectPhrase where
  | all (star : Mark .star)
  | paths (listed : Separated Path)

namespace SelectPhrase

/-- The tokens of what is selected. -/
def tokens : SelectPhrase → List Token
  | .all star => [star.val]
  | .paths listed => listed.tokens Path.tokens

/-- The selection that a phrase stands for. -/
def value (origin : Origin) : SelectPhrase → Selection
  | .all _ => .all
  | .paths listed => .paths (listed.items.map (Path.value origin))

end SelectPhrase

/-- The alias of the collection. -/
inductive AliasPhrase where
  | absent
  | plain (name : Leaf Names)
  | marked (word : Word .as) (name : Leaf Names)

namespace AliasPhrase

/-- The tokens of an alias. -/
def tokens : AliasPhrase → List Token
  | .absent => []
  | .plain name => [name.token]
  | .marked word name => [word.val, name.token]

/-- The alias that a phrase stands for. -/
def value : AliasPhrase → Option String
  | .absent => none
  | .plain name | .marked _ name => some name.value

end AliasPhrase

/-- The direction of a key. -/
inductive Direction where
  | unmarked
  | ascending (word : Word .asc)
  | descending (word : Word .desc)

namespace Direction

/-- The tokens of a direction. -/
def tokens : Direction → List Token
  | .unmarked => []
  | .ascending word => [word.val]
  | .descending word => [word.val]

/-- Whether a direction is the descending one. -/
def isDescending : Direction → Bool
  | .descending _ => true
  | _ => false

end Direction

/-- A key of the order. -/
structure KeyPhrase where
  path : Path
  direction : Direction

namespace KeyPhrase

/-- The tokens of a key. -/
def tokens (key : KeyPhrase) : List Token := key.path.tokens ++ key.direction.tokens

/-- The key that a phrase stands for. -/
def value (origin : Origin) (key : KeyPhrase) : OrderKey :=
  ⟨key.path.value origin, key.direction.isDescending⟩

end KeyPhrase

/-- The order behind its first keyword. -/
structure OrderPhrase where
  word : Word .by
  keys : Separated KeyPhrase

/-- The tokens of an order. -/
def OrderPhrase.tokens (order : OrderPhrase) : List Token :=
  order.word.val :: order.keys.tokens KeyPhrase.tokens

/-- The tokens of an integer. -/
def countTokens (count : Leaf Counts) : List Token := [count.token]

/-- The derivation of a query. -/
structure QueryPhrase where
  select : Word .select
  top : Clause .top (Leaf Counts)
  selection : SelectPhrase
  word : Word .from
  source : Leaf Names
  reference : AliasPhrase
  condition : Clause .where (Phrase (.level (.joined .or)))
  order : Clause .order OrderPhrase
  limit : Clause .limit (Leaf Counts)

namespace QueryPhrase

/-- The tokens of the clauses behind the collection. -/
def closingTokens (phrase : QueryPhrase) : List Token :=
  phrase.condition.tokens Phrase.tokens ++
    (phrase.order.tokens OrderPhrase.tokens ++ phrase.limit.tokens countTokens)

/-- The tokens that a query derives. -/
def tokens (phrase : QueryPhrase) : List Token :=
  phrase.select.val :: (phrase.top.tokens countTokens ++ (phrase.selection.tokens ++
    phrase.word.val :: phrase.source.token :: (phrase.reference.tokens ++ phrase.closingTokens)))

/-- The tokens in front of the condition. -/
def openingTokens (phrase : QueryPhrase) : List Token :=
  phrase.select.val :: (phrase.top.tokens countTokens ++ (phrase.selection.tokens ++
    phrase.word.val :: phrase.source.token :: phrase.reference.tokens))

/-- The tokens behind the condition. -/
def endingTokens (phrase : QueryPhrase) : List Token :=
  phrase.order.tokens OrderPhrase.tokens ++ phrase.limit.tokens countTokens

theorem tokens_eq (phrase : QueryPhrase) : phrase.tokens =
    phrase.openingTokens ++ (phrase.condition.tokens Phrase.tokens ++ phrase.endingTokens) := by
  simp [tokens, openingTokens, closingTokens, endingTokens]

/-- No count of documents is negative. -/
def CountsNonnegative (phrase : QueryPhrase) : Prop :=
  (∀ clause ∈ phrase.top, 0 ≤ clause.2.value) ∧ ∀ clause ∈ phrase.limit, 0 ≤ clause.2.value

/-- The query that a phrase stands for. -/
def value (origin : Origin) (phrase : QueryPhrase) : Query where
  selection := phrase.selection.value origin
  top := phrase.top.map fun clause => clause.2.value.toNat
  source := ⟨phrase.source.value, phrase.reference.value⟩
  condition := phrase.condition.map fun clause => clause.2.value origin
  order := phrase.order.map fun clause => clause.2.keys.items.map (KeyPhrase.value origin)
  limit := phrase.limit.map fun clause => clause.2.value.toNat

end QueryPhrase

/-! ### What continues a phrase -/

/-- How much a level takes in: each level takes in what the levels that bind more do. -/
def Level.reach : Level → Nat
  | .operand | .negated => 0
  | .ranged => 1
  | .comparison => 2
  | .joined .and => 3
  | .joined .or => 4

/-- The least reach of a level that goes on with a token, and none if no phrase does. -/
def continuedFrom? : TokenKind → Option Nat
  | .symbol .dot _ | .symbol .leftParen _ => some 0
  | .keyword .between _ => some 1
  | .symbol .equal _ | .symbol .notEqual _ | .symbol .greater _ | .symbol .greaterOrEqual _
  | .symbol .less _ | .symbol .lessOrEqual _ => some 2
  | .keyword .and _ => some 3
  | .keyword .or _ => some 4
  | _ => none

/-- The first of some tokens does not continue a phrase of a level. -/
def Level.Stops (level : Level) (rest : List Token) : Prop :=
  ∀ token ∈ rest.head?, ∀ least ∈ continuedFrom? token.kind, level.reach < least

/-- The first of some tokens does not continue a phrase of a category. Arguments end at a closing
parenthesis. -/
def Category.Stops : Category → List Token → Prop
  | .level tier, rest => tier.Stops rest
  | .further junction, rest => (Level.joined junction).Stops rest
  | .arguments, rest | .moreArguments, rest =>
    ∃ closing more, rest = closing :: more ∧ IsSymbol .rightParen closing.kind

namespace Level

theorem Stops.mono {level inner : Level} {rest : List Token} (stops : level.Stops rest)
    (less : inner.reach ≤ level.reach) : inner.Stops rest :=
  fun token first least continued => Nat.lt_of_le_of_lt less (stops token first least continued)

theorem stops_cons {level : Level} {token : Token} {rest : List Token} :
    level.Stops (token :: rest) ↔ ∀ least ∈ continuedFrom? token.kind, level.reach < least := by
  simp [Stops]

theorem stops_closing {level : Level} {token : Token} {rest : List Token}
    (closing : IsSymbol .rightParen token.kind) : level.Stops (token :: rest) := by
  obtain ⟨spelling, kind⟩ := closing
  simp [stops_cons, kind, continuedFrom?]

theorem stops_comma {level : Level} {token : Token} {rest : List Token}
    (comma : IsSymbol .comma token.kind) : level.Stops (token :: rest) := by
  obtain ⟨spelling, kind⟩ := comma
  simp [stops_cons, kind, continuedFrom?]

theorem stops_junction (junction : Junction) {token : Token} {rest : List Token}
    (word : IsKeyword junction.keyword token.kind) : junction.part.Stops (token :: rest) := by
  obtain ⟨spelling, kind⟩ := word
  cases junction <;>
    simp [stops_cons, kind, continuedFrom?, Junction.part, Junction.keyword, reach]

theorem stops_compares {token : Token} {operator : Operator} {rest : List Token}
    (compares : Compares token.kind operator) : Level.ranged.Stops (token :: rest) := by
  rw [stops_cons]
  generalize token.kind = kind at compares
  cases compares <;> simp [continuedFrom?, reach]

theorem stops_between {token : Token} {rest : List Token}
    (word : IsKeyword .between token.kind) : Level.negated.Stops (token :: rest) := by
  obtain ⟨spelling, kind⟩ := word
  simp [stops_cons, kind, continuedFrom?, reach]

theorem stops_and {token : Token} {rest : List Token}
    (word : IsKeyword .and token.kind) : Level.negated.Stops (token :: rest) := by
  obtain ⟨spelling, kind⟩ := word
  simp [stops_cons, kind, continuedFrom?, reach]

theorem reach_part (junction : Junction) :
    junction.part.reach ≤ (Level.joined junction).reach := by
  cases junction <;> simp [Junction.part, reach]

end Level

/-! ### How a phrase begins -/

/-- The ways in which an operand begins. -/
inductive Lead where
  | literal
  | parameter
  | name
  | opening
deriving DecidableEq

/-- How an operand that begins with a token begins, and none if no operand does. -/
def lead? : TokenKind → Option Lead
  | .string _ | .integer _ | .float _ | .boolean _ | .null => some .literal
  | .parameter _ => some .parameter
  | .identifier _ => some .name
  | .symbol .leftParen _ => some .opening
  | _ => none

theorem Denotes.lead {kind : TokenKind} {value : Json} (denotes : Denotes kind value) :
    lead? kind = some .literal := by
  cases denotes <;> rfl

theorem Binds.lead {kind : TokenKind} {name : String} (binds : Binds kind name) :
    lead? kind = some .parameter := by
  cases binds
  rfl

theorem Names.lead {kind : TokenKind} {name : String} (names : Names kind name) :
    lead? kind = some .name := by
  cases names
  rfl

theorem IsSymbol.lead {kind : TokenKind} (opening : IsSymbol .leftParen kind) :
    lead? kind = some .opening := by
  obtain ⟨spelling, rfl⟩ := opening
  rfl

theorem IsKeyword.lead {word : Keyword} {kind : TokenKind} (isWord : IsKeyword word kind) :
    lead? kind = none := by
  obtain ⟨spelling, rfl⟩ := isWord
  rfl

/-- A token can begin a phrase of a level. -/
def Level.Begins : Level → TokenKind → Prop
  | .operand, kind => (lead? kind).isSome
  | _, kind => (lead? kind).isSome ∨ IsKeyword .not kind

theorem Level.Begins.weaken {level : Level} {kind : TokenKind} (begins : level.Begins kind) :
    (lead? kind).isSome ∨ IsKeyword .not kind := by
  cases level with
  | operand => exact .inl begins
  | _ => exact begins

namespace Phrase

/-- How an operand begins. -/
def lead : Phrase (.level .operand) → Lead
  | .literal _ => .literal
  | .parameter _ => .parameter
  | .property _ | .call .. => .name
  | .group .. => .opening

/-- An operand has a first token, which shows how it begins. -/
theorem exists_lead (phrase : Phrase (.level .operand)) :
    ∃ head more, phrase.tokens = head :: more ∧ lead? head.kind = some phrase.lead := by
  cases phrase with
  | literal leaf => exact ⟨leaf.token, [], rfl, leaf.fits.lead⟩
  | parameter leaf => exact ⟨leaf.token, [], rfl, leaf.fits.lead⟩
  | property path => exact ⟨path.first.token, _, rfl, path.first.fits.lead⟩
  | call name opening given closing => exact ⟨name.token, _, rfl, name.fits.lead⟩
  | group opening inner closing => exact ⟨opening.val, _, rfl, opening.property.lead⟩

/-- A phrase of a level has a first token, which can begin such a phrase. -/
theorem exists_head {category : Category} (phrase : Phrase category) :
    ∀ level, category = .level level →
      ∃ head more, phrase.tokens = head :: more ∧ level.Begins head.kind := by
  induction phrase with
  | joined first more ih _ | compared first operator right ih _
  | between first word lower joint upper ih _ _ =>
    rintro _ ⟨⟩
    obtain ⟨head, tail, tokens, begins⟩ := ih _ rfl
    exact ⟨head, _, by rw [Phrase.tokens, tokens, List.cons_append], begins.weaken⟩
  | single inner ih | plain inner ih | positive inner ih =>
    rintro _ ⟨⟩
    obtain ⟨head, tail, tokens, begins⟩ := ih _ rfl
    exact ⟨head, tail, tokens, begins.weaken⟩
  | not word inner _ =>
    rintro _ ⟨⟩
    exact ⟨word.val, inner.tokens, rfl, .inr word.property⟩
  | literal leaf =>
    rintro _ ⟨⟩
    exact ⟨leaf.token, [], rfl, by simp [Level.Begins, leaf.fits.lead]⟩
  | parameter leaf =>
    rintro _ ⟨⟩
    exact ⟨leaf.token, [], rfl, by simp [Level.Begins, leaf.fits.lead]⟩
  | property path =>
    rintro _ ⟨⟩
    exact ⟨path.first.token, _, rfl, by simp [Level.Begins, path.first.fits.lead]⟩
  | call name opening given closing _ =>
    rintro _ ⟨⟩
    exact ⟨name.token, _, rfl, by simp [Level.Begins, name.fits.lead]⟩
  | group opening inner closing _ =>
    rintro _ ⟨⟩
    exact ⟨opening.val, _, rfl, by simp [Level.Begins, opening.property.lead]⟩
  | _ => rintro _ ⟨⟩

end Phrase

end Grammar

end DocQuery
