/-
**Written queries read back.**

* `Renders`: a text is read, and its tokens have a meaning wherever they stand, with
  `Renders.append` for texts side by side;
* `renders_expr`, `renders_query`: the written form of a writable expression or query derives it, if
  its constants are finite;
* `Query.read_text_of_finite`: such a query reads back.
-/

import DocQuery.Proofs.Query.Acceptance
import DocQuery.Proofs.Query.Writable

namespace DocQuery

open Grammar

/-! ### Texts and what their tokens derive -/

/-- A property of tokens, given the text that they were read from. -/
abbrev Reading := Origin → List Token → Prop

/-- Some tokens have a meaning, and the others behind them have another one. -/
def Reading.andThen (meaning other : Reading) : Reading := fun origin tokens =>
  ∃ first second, tokens = first ++ second ∧ meaning origin first ∧ other origin second

/-- A text is read if what stands behind it has a property, and its tokens have a meaning wherever
they stand. -/
def Renders (behind : List Char → Prop) (text : String) (meaning : Reading) : Prop :=
  ∃ pieces, Reads behind text.toList pieces ∧
    ∀ whole stop tokens, tokens.map (Token.piece whole) = pieces → meaning ⟨stop, some whole⟩ tokens

section

variable {behind behind' : List Char → Prop} {text text' : String} {meaning meaning' : Reading}

theorem Renders.mono (renders : Renders behind text meaning)
    (implies : ∀ origin tokens, meaning origin tokens → meaning' origin tokens) :
    Renders behind text meaning' := by
  obtain ⟨pieces, reads, means⟩ := renders
  exact ⟨pieces, reads, fun whole stop tokens split => implies _ _ (means whole stop tokens split)⟩

theorem Renders.weaken (renders : Renders behind text meaning)
    (fits : ∀ rest, behind' rest → behind rest) : Renders behind' text meaning := by
  obtain ⟨pieces, reads, means⟩ := renders
  exact ⟨pieces, reads.weaken fits, means⟩

theorem Renders.append (renders : Renders behind text meaning)
    (renders' : Renders behind' text' meaning')
    (sets : ∀ rest, behind' rest → behind (text'.toList ++ rest)) :
    Renders behind' (text ++ text') (meaning.andThen meaning') := by
  obtain ⟨pieces, reads, means⟩ := renders
  obtain ⟨pieces', reads', means'⟩ := renders'
  refine ⟨pieces ++ pieces', ?_, fun whole stop tokens split => ?_⟩
  · rw [String.toList_append]
    exact reads.append reads' sets
  · obtain ⟨first, second, rfl, isFirst, isSecond⟩ := List.map_eq_append_iff.mp split
    exact ⟨first, second, rfl, means whole stop first isFirst, means' whole stop second isSecond⟩

/-- A text that is read as one token. -/
theorem Renders.piece {kind : TokenKind}
    (reads : Reads behind text.toList [⟨kind, text.toList⟩])
    (means : ∀ origin token, token.kind = kind → Parser.segmentText origin token = text →
      meaning origin [token]) : Renders behind text meaning := by
  refine ⟨_, reads, fun whole stop tokens split => ?_⟩
  obtain ⟨token, rfl, same⟩ := List.map_eq_singleton_iff.mp split
  refine means _ token (congrArg Piece.kind same) ?_
  exact (congrArg (fun piece => String.ofList piece.spelling) same).trans String.ofList_toList

end

theorem delimited_blank (rest : List Char) : Delimited (' ' :: rest) := by
  rintro c ⟨⟩
  exact .inl rfl

theorem delimited_comma (rest : List Char) : Delimited (',' :: rest) := by
  rintro c ⟨⟩
  exact .inr (.inl rfl)

theorem delimited_closing (rest : List Char) : Delimited (')' :: rest) := by
  rintro c ⟨⟩
  exact .inr (.inr rfl)

/-- A blank in front of a text delimits what stands before it. -/
theorem delimited_blank_append (text : String) (rest : List Char) :
    Delimited ((" " ++ text).toList ++ rest) := by
  rw [String.toList_append]
  exact delimited_blank _

theorem endsName_opening (rest : List Char) : EndsName ('(' :: rest) := by
  rintro c ⟨⟩
  decide +kernel

/-- There are no tokens. -/
def Nothing : Reading := fun _ tokens => tokens = []

theorem renders_blank : Renders Anything " " Nothing :=
  ⟨[], reads_blank, fun _ _ _ split => List.map_eq_nil_iff.mp split⟩

section

variable {behind : List Char → Prop} {text : String} {meaning : Reading}

/-- A blank in front of a text does not count. -/
theorem Renders.behindBlank (renders : Renders behind text meaning) :
    Renders behind (" " ++ text) meaning := by
  refine (renders_blank.append renders fun _ _ => trivial).mono ?_
  rintro origin _ ⟨_, tokens, rfl, rfl, means⟩
  exact means

/-- A blank sets a text off. -/
theorem Renders.beforeBlank (renders : Renders Delimited text meaning) :
    Renders Anything (text ++ " ") meaning := by
  refine (renders.append renders_blank fun rest _ => delimited_blank rest).mono ?_
  rintro origin _ ⟨tokens, _, rfl, means, rfl⟩
  rwa [List.append_nil]

end

/-! ### Symbols and words -/

/-- The tokens are a given symbol. -/
def Marks (mark : Symbol) : Reading := fun _ tokens => ∃ sign : Mark mark, tokens = [sign.val]

/-- The tokens are a given keyword. -/
def Words (word : Keyword) : Reading := fun _ tokens => ∃ found : Word word, tokens = [found.val]

/-- The tokens are a given name. -/
def Calls (name : String) : Reading := fun _ tokens =>
  ∃ leaf : Leaf Names, tokens = [leaf.token] ∧ leaf.value = name

theorem renders_mark {behind : List Char → Prop} {mark : Symbol} {text : String}
    (reads : Reads behind text.toList [⟨.symbol mark text, text.toList⟩]) :
    Renders behind text (Marks mark) :=
  .piece reads fun _ token kind _ => ⟨⟨token, text, kind⟩, rfl⟩

theorem renders_opening : Renders Anything "(" (Marks .leftParen) := renders_mark reads_opening

theorem renders_closing : Renders Anything ")" (Marks .rightParen) := renders_mark reads_closing

theorem renders_dot : Renders Anything "." (Marks .dot) := renders_mark reads_dot

theorem renders_star : Renders Anything "*" (Marks .star) := renders_mark reads_star

theorem renders_comma : Renders Anything ", " (Marks .comma) := by
  have comma : Renders Anything "," (Marks .comma) := renders_mark reads_comma
  exact (comma.weaken fun _ _ => trivial).beforeBlank

theorem renders_word (word : Keyword) :
    Renders Delimited (TokenKind.keywordTitle word) (Words word) :=
  .piece ((reads_keyword word).weaken fun _ delimited => delimited.endsName)
    fun _ token kind _ => ⟨⟨token, _, kind⟩, rfl⟩

theorem renders_name {name : String} (plain : IsPlain name) :
    Renders EndsName name (Calls name) := by
  have reads := reads_name plain.1
  rw [String.ofList_toList, plain.2] at reads
  exact .piece reads fun _ token kind _ => ⟨⟨token, name, kind ▸ .identifier name⟩, rfl, rfl⟩

/-! ### Paths -/

/-- The tokens are a path. -/
def IsReference (path : String) : Reading := fun origin tokens =>
  ∃ phrase : Path, phrase.tokens = tokens ∧ phrase.value origin = path

/-- The tokens are names with points between them, of which the first may be a reserved word. -/
def Follows (first : String) (more : List String) : Reading := fun origin tokens =>
  ∃ (token : Token) (segments : List Segment),
    tokens = token :: segments.flatMap Segment.tokens ∧ token.kind = .ofWord first ∧
    Parser.segmentText origin token = first ∧
    (segments.map fun segment => Parser.segmentText origin segment.name) = more

theorem isSegment_ofWord (spelling : String) : IsSegment (.ofWord spelling) := by
  rcases ofWord_cases spelling with ⟨value, kind⟩ | kind | ⟨word, kind⟩ | kind
  · rw [kind]
    exact .boolean value
  · rw [kind]
    exact .null
  · rw [kind]
    exact .keyword word spelling
  · rw [kind]
    exact .identifier spelling

theorem endsName_dot (rest : List Char) : EndsName ('.' :: rest) := by
  rintro c ⟨⟩
  decide +kernel

theorem renders_segment {name : String} (isName : IsName name.toList) :
    Renders EndsName name (Follows name []) := by
  have reads := reads_name isName
  rw [String.ofList_toList] at reads
  exact .piece reads fun _ token kind spelling => ⟨token, [], rfl, kind, spelling, rfl⟩

theorem renders_follows (first : String) (more : List String) (isFirst : IsName first.toList)
    (names : ∀ name ∈ more, IsName name.toList) :
    Renders EndsName (".".intercalate (first :: more)) (Follows first more) := by
  induction more generalizing first with
  | nil =>
    rw [String.intercalate_singleton]
    exact renders_segment isFirst
  | cons second more ih =>
    have behind := ih second (names second List.mem_cons_self)
      fun other member => names other (List.mem_cons_of_mem second member)
    rw [String.intercalate_cons_cons]
    refine (((renders_segment isFirst).append renders_dot fun rest _ => endsName_dot rest).append
      behind fun _ _ => trivial).mono ?_
    rintro origin _ ⟨_, _, rfl, ⟨_, _, rfl, ⟨token, segments, rfl, kind, spelling, none⟩,
      ⟨dot, rfl⟩⟩, ⟨next, others, rfl, kind', spelling', names⟩⟩
    obtain rfl := List.map_eq_nil_iff.mp none
    refine ⟨token, ⟨dot, next, kind' ▸ isSegment_ofWord second⟩ :: others, rfl, kind, spelling, ?_⟩
    rw [List.map_cons, names, spelling']

theorem renders_path {path : String} (isPath : IsPath path) :
    Renders Delimited path (IsReference path) := by
  obtain ⟨first, more, rfl, plain, names⟩ := isPath
  refine ((renders_follows first more plain.1 names).weaken
    fun _ delimited => delimited.endsName).mono ?_
  rintro origin _ ⟨token, segments, rfl, kind, spelling, rfl⟩
  rw [plain.2] at kind
  exact ⟨⟨⟨token, first, kind ▸ .identifier first⟩, segments⟩, rfl, rfl⟩

/-! ### Items with commas between them -/

/-- The tokens are items with commas between them. -/
inductive Listed {α : Type} (reading : α → Reading) (origin : Origin) :
    List α → List Token → Prop
  | last {item : α} {tokens : List Token} (means : reading item origin tokens) :
    Listed reading origin [item] tokens
  | more {item : α} {items : List α} {tokens others : List Token}
    (means : reading item origin tokens) (comma : Mark .comma)
    (further : Listed reading origin items others) :
    Listed reading origin (item :: items) (tokens ++ comma.val :: others)

theorem renders_listed {α : Type} (write : α → String) (reading : α → Reading) (items : List α)
    (some : items ≠ []) (each : ∀ item ∈ items, Renders Delimited (write item) (reading item)) :
    Renders Delimited (", ".intercalate (items.map write))
      fun origin tokens => Listed reading origin items tokens := by
  induction items with
  | nil => exact absurd rfl some
  | cons item more ih =>
    have first := each item List.mem_cons_self
    by_cases none : more = []
    · subst none
      rw [List.map_singleton, String.intercalate_singleton]
      exact first.mono fun _ _ means => .last means
    · have behind := ih none fun other member => each other (List.mem_cons_of_mem item member)
      rw [List.map_cons, String.intercalate_cons_of_ne_nil (by simpa using none)]
      refine ((first.append renders_comma fun rest _ => delimited_comma _).append behind
        fun _ _ => trivial).mono ?_
      rintro origin _ ⟨_, others, rfl, ⟨tokens, _, rfl, means, ⟨comma, rfl⟩⟩, further⟩
      rw [List.append_assoc]
      exact .more means comma further

/-- Items with commas between them that derive are a sequence of derivations. -/
theorem Listed.separated {α β : Type} {item : β → List Token} {value : Origin → β → α}
    {origin : Origin} {items : List α} {tokens : List Token}
    (listed : Listed (fun found origin tokens => ∃ phrase, item phrase = tokens ∧
      value origin phrase = found) origin items tokens) :
    ∃ phrases : Separated β, phrases.tokens item = tokens ∧
      phrases.items.map (value origin) = items := by
  induction listed with
  | last means =>
    obtain ⟨phrase, rfl, rfl⟩ := means
    exact ⟨⟨phrase, []⟩, by simp [Separated.tokens], rfl⟩
  | more means comma further ih =>
    obtain ⟨phrase, rfl, rfl⟩ := means
    obtain ⟨⟨first, more⟩, rfl, rfl⟩ := ih
    exact ⟨⟨phrase, (comma, first) :: more⟩, by simp [Separated.tokens], rfl⟩

/-! ### Expressions -/

/-- The tokens derive an expression, wherever its nodes stand. -/
def Derives (expr : Expr) : Reading := fun origin tokens =>
  ∃ phrase : Phrase (.level .negated), phrase.tokens = tokens ∧
    (phrase.value origin).unplaced = expr.unplaced

theorem Renders.literal {behind : List Char → Prop} {text : String} {kind : TokenKind}
    {value : Json} {position : Position}
    (reads : Reads behind text.toList [⟨kind, text.toList⟩]) (denotes : Denotes kind value) :
    Renders behind text (Derives (.constant (.json value) position)) :=
  .piece reads fun _ token same _ =>
    ⟨.positive (.literal ⟨token, value, same ▸ denotes⟩), rfl, rfl⟩

/-- A word that is a literal. -/
theorem renders_literalWord {word : String} {value : Json} {position : Position}
    (isName : IsName word.toList) (denotes : Denotes (.ofWord word) value) :
    Renders Delimited word (Derives (.constant (.json value) position)) := by
  have reads := reads_name isName
  rw [String.ofList_toList] at reads
  exact .literal (reads.weaken fun _ delimited => delimited.endsName) denotes

theorem renders_constant {value : Json} {position : Position} (literal : IsLiteral value)
    (finite : FiniteConstants [.json value]) : Renders Delimited (constantText (.json value))
      (Derives (.constant (.json value) position)) := by
  have denotes : ∀ {word kind}, TokenKind.ofWord word = kind → Denotes kind value →
      Denotes (.ofWord word) value := fun same holds => same ▸ holds
  cases value with
  | null =>
    exact renders_literalWord (by decide +kernel)
      (denotes (show TokenKind.ofWord "null" = .null by decide +kernel) .null)
  | bool value =>
    cases value with
    | true =>
      exact renders_literalWord (by decide +kernel)
        (denotes (show TokenKind.ofWord "true" = .boolean true by decide +kernel) (.boolean true))
    | false =>
      exact renders_literalWord (by decide +kernel)
        (denotes (show TokenKind.ofWord "false" = .boolean false by decide +kernel)
          (.boolean false))
  | string text =>
    have reads := reads_string literal
    have whole : '\'' :: text.toList ++ ['\''] = ("'" ++ text ++ "'").toList := by simp
    rw [String.ofList_toList, whole] at reads
    exact .literal (reads.weaken fun _ _ => trivial) (.string text)
  | int value => exact .literal (reads_integer literal) (.integer value)
  | float value =>
    cases value with
    | nan => exact absurd rfl literal
    | infinite negative => exact nomatch finite _ List.mem_cons_self
    | finite negative units representable =>
      exact .literal (reads_float negative representable) (.float _)
  | array items => exact literal.elim
  | object members => exact literal.elim

theorem renders_parameter {name : String} {position : Position} (isName : IsName name.toList) :
    Renders Delimited ("@" ++ name) (Derives (.parameter name position)) := by
  have reads := reads_parameter isName
  have whole : '@' :: name.toList = ("@" ++ name).toList := by simp
  rw [String.ofList_toList, whole] at reads
  exact .piece (reads.weaken fun _ delimited => delimited.endsName) fun _ token kind _ =>
    ⟨.positive (.parameter ⟨token, name, kind ▸ .parameter name⟩), rfl, rfl⟩

theorem renders_property {path : String} {position : Position} (isPath : IsPath path) :
    Renders Delimited path (Derives (.property path position)) := by
  refine (renders_path isPath).mono ?_
  rintro origin _ ⟨phrase, rfl, rfl⟩
  exact ⟨.positive (.property phrase), rfl, rfl⟩

theorem renders_not {text : String} {operand : Expr} {position : Position}
    (renders : Renders Delimited text (Derives operand)) :
    Renders Delimited ("NOT " ++ text) (Derives (.unary .not operand position)) := by
  refine ((renders_word .not).beforeBlank.append renders fun _ _ => trivial).mono ?_
  rintro origin _ ⟨_, _, rfl, ⟨word, rfl⟩, ⟨phrase, rfl, same⟩⟩
  refine ⟨.not word phrase, rfl, ?_⟩
  simp only [Phrase.value, Expr.unplaced, same]

/-- A phrase that binds most is a whole condition. -/
def whole (phrase : Phrase (.level .negated)) : Phrase (.level (.joined .or)) :=
  .joined (.joined (.single (.plain phrase)) .finished) .finished

theorem whole_tokens (phrase : Phrase (.level .negated)) :
    (whole phrase).tokens = phrase.tokens := by
  simp [whole, Phrase.tokens]

/-- The tokens are an operator between two operands. -/
def Joins (operator : Operator) : Reading := fun _ tokens =>
  (∃ leaf : Leaf Compares, tokens = [leaf.token] ∧ leaf.value = operator) ∨
    ∃ (junction : Junction) (word : Word junction.keyword), tokens = [word.val] ∧
      junction.operator = operator

/-- An operator joins two phrases. -/
theorem Joins.exists_phrase {operator : Operator} {origin : Origin} {tokens : List Token}
    (joins : Joins operator origin tokens) (left right : Phrase (.level .negated)) :
    ∃ (phrase : Phrase (.level (.joined .or))) (position : Position),
      phrase.tokens = left.tokens ++ (tokens ++ right.tokens) ∧
      phrase.value origin =
        .binary (left.value origin) operator (right.value origin) position := by
  rcases joins with ⟨leaf, rfl, rfl⟩ | ⟨junction, word, rfl, rfl⟩
  · refine ⟨.joined (.joined (.compared (.plain left) leaf (.plain right)) .finished) .finished,
      leaf.token.position, ?_, rfl⟩
    simp [Phrase.tokens]
  · cases junction with
    | or =>
      refine ⟨.joined (.joined (.single (.plain left)) .finished)
        (.further word (.joined (.single (.plain right)) .finished) .finished),
        word.val.position, ?_, rfl⟩
      simp [Phrase.tokens]
    | and =>
      refine ⟨.joined (.joined (.single (.plain left))
        (.further word (.single (.plain right)) .finished)) .finished, word.val.position, ?_, rfl⟩
      simp [Phrase.tokens]

theorem Delimited.endsSymbol {rest : List Char} (delimited : Delimited rest) (mark : Symbol)
    (spelling : String) (cs : List Char) :
    Piece.EndsBefore ⟨.symbol mark spelling, cs⟩ rest := by
  cases mark with
  | less | greater =>
    intro c first
    rcases delimited c first with rfl | rfl | rfl <;> decide
  | _ => trivial

/-- A comparison operator is read if it ends there. -/
theorem renders_compares {operator : Operator} {mark : Symbol}
    (listed : (mark, operator.symbol) ∈ symbolSpellings)
    (compares : ∀ spelling, Compares (.symbol mark spelling) operator) :
    Renders Delimited operator.symbol (Joins operator) :=
  .piece ((reads_listed listed).weaken fun _ delimited => delimited.endsSymbol _ _ _)
    fun _ token kind _ => .inl ⟨⟨token, operator, kind ▸ compares operator.symbol⟩, rfl, rfl⟩

theorem renders_operator {operator : Operator} (joint : IsJoint operator) :
    Renders Delimited operator.symbol (Joins operator) := by
  cases operator with
  | equal => exact renders_compares (by decide) .equal
  | notEqual => exact renders_compares (by decide) .notEqual
  | greater => exact renders_compares (by decide) .greater
  | less => exact renders_compares (by decide) .less
  | greaterOrEqual => exact renders_compares (by decide) .greaterOrEqual
  | lessOrEqual => exact renders_compares (by decide) .lessOrEqual
  | and => exact (renders_word .and).mono fun _ _ ⟨word, same⟩ => .inr ⟨.and, word, same, rfl⟩
  | or => exact (renders_word .or).mono fun _ _ ⟨word, same⟩ => .inr ⟨.or, word, same, rfl⟩
  | between => exact joint.elim
  | not => exact joint.elim

theorem renders_binary {left right : String} {expr other : Expr} {operator : Operator}
    {position : Position} (rendersLeft : Renders Delimited left (Derives expr))
    (joint : IsJoint operator) (rendersRight : Renders Delimited right (Derives other)) :
    Renders Delimited ("(" ++ left ++ (" " ++ (operator.symbol ++ " ")) ++ right ++ ")")
      (Derives (.binary expr operator other position)) := by
  have spaced := (renders_operator joint).beforeBlank.behindBlank
  refine (((((renders_opening.append rendersLeft fun _ _ => trivial).append spaced
    fun rest _ => delimited_blank_append _ rest).append rendersRight fun _ _ => trivial).append
    renders_closing fun rest _ => delimited_closing _).weaken fun _ _ => trivial).mono ?_
  rintro origin _ ⟨_, _, rfl, ⟨_, _, rfl, ⟨_, joining, rfl, ⟨_, _, rfl, ⟨opening, rfl⟩,
    ⟨phrase, rfl, same⟩⟩, joins⟩, ⟨phrase', rfl, same'⟩⟩, ⟨closing, rfl⟩⟩
  obtain ⟨inner, place, tokens, value⟩ := joins.exists_phrase phrase phrase'
  refine ⟨.positive (.group opening inner closing), ?_, ?_⟩
  · simp [Phrase.tokens, tokens]
  · simp only [Phrase.value, value, Expr.unplaced, same, same']

theorem renders_between {value lower upper : String} {expr least most : Expr} {position : Position}
    (rendersValue : Renders Delimited value (Derives expr))
    (rendersLower : Renders Delimited lower (Derives least))
    (rendersUpper : Renders Delimited upper (Derives most)) :
    Renders Delimited ("(" ++ value ++ (" " ++ "BETWEEN" ++ " ") ++ lower ++
      (" " ++ "AND" ++ " ") ++ upper ++ ")") (Derives (.between expr least most position)) := by
  have word := (renders_word .between).behindBlank.beforeBlank
  have joint := (renders_word .and).behindBlank.beforeBlank
  refine (((((((renders_opening.append rendersValue fun _ _ => trivial).append word
    fun rest _ => delimited_blank _).append rendersLower fun _ _ => trivial).append joint
    fun rest _ => delimited_blank _).append rendersUpper fun _ _ => trivial).append
    renders_closing fun rest _ => delimited_closing _).weaken fun _ _ => trivial).mono ?_
  rintro origin _ ⟨_, _, rfl, ⟨_, _, rfl, ⟨_, _, rfl, ⟨_, _, rfl, ⟨_, _, rfl, ⟨_, _, rfl,
    ⟨opening, rfl⟩, ⟨inner, rfl, same⟩⟩, ⟨word, rfl⟩⟩, ⟨first, rfl, same'⟩⟩, ⟨joint, rfl⟩⟩,
    ⟨second, rfl, same''⟩⟩, ⟨closing, rfl⟩⟩
  refine ⟨.positive (.group opening (.joined (.joined (.single (.between inner word first joint
    second)) .finished) .finished) closing), ?_, ?_⟩
  · simp [Phrase.tokens]
  · simp only [Phrase.value, id, Expr.unplaced, same, same', same'']

/-- Arguments with commas between them derive. -/
theorem Listed.arguments {origin : Origin} {items : List Expr} {tokens : List Token}
    (listed : Listed Derives origin items tokens) :
    ∃ (first : Phrase (.level (.joined .or))) (more : Phrase .moreArguments),
      first.tokens ++ more.tokens = tokens ∧
      (first.value origin :: more.value origin).map Expr.unplaced = items.map Expr.unplaced := by
  induction listed with
  | last means =>
    obtain ⟨phrase, rfl, same⟩ := means
    refine ⟨whole phrase, .noFurtherArgument, ?_, ?_⟩
    · rw [whole_tokens]
      exact List.append_nil _
    · exact congrArg ([·]) same
  | more means comma further ih =>
    obtain ⟨phrase, rfl, same⟩ := means
    obtain ⟨first, more, rfl, others⟩ := ih
    refine ⟨whole phrase, .furtherArgument comma first more, ?_, ?_⟩
    · rw [whole_tokens]
      rfl
    · rw [List.map_cons, List.map_cons, ← others]
      exact congrArg (· :: _) same

theorem renders_call {name : String} {arguments : List Expr} {position : Position}
    (plain : IsPlain name)
    (each : ∀ argument ∈ arguments, Renders Delimited argument.text (Derives argument)) :
    Renders Delimited (name ++ "(" ++ ", ".intercalate (arguments.map Expr.text) ++ ")")
      (Derives (.call name arguments position)) := by
  have called := (renders_name plain).append renders_opening fun rest _ => endsName_opening rest
  by_cases none : arguments = []
  · subst none
    rw [List.map_nil, String.intercalate_nil, String.append_empty]
    refine ((called.append renders_closing fun _ _ => trivial).weaken fun _ _ => trivial).mono ?_
    rintro origin _ ⟨_, _, rfl, ⟨_, _, rfl, ⟨leaf, rfl, rfl⟩, ⟨opening, rfl⟩⟩, ⟨closing, rfl⟩⟩
    exact ⟨.positive (.call leaf opening .noArguments closing), rfl, rfl⟩
  · have listed := renders_listed Expr.text Derives arguments none each
    refine (((called.append listed fun _ _ => trivial).append renders_closing
      fun rest _ => delimited_closing _).weaken fun _ _ => trivial).mono ?_
    rintro origin _ ⟨_, _, rfl, ⟨_, _, rfl, ⟨_, _, rfl, ⟨leaf, rfl, rfl⟩, ⟨opening, rfl⟩⟩,
      listed⟩, ⟨closing, rfl⟩⟩
    obtain ⟨first, more, rfl, same⟩ := listed.arguments
    refine ⟨.positive (.call leaf opening (.someArguments first more) closing), ?_, ?_⟩
    · simp [Phrase.tokens]
    · simp only [Phrase.value, Expr.unplaced, Expr.unplacedArguments_eq, same]

/-- **The written form of an expression derives the expression**, if its numbers are finite. -/
theorem renders_expr {expr : Expr} (writable : expr.Writable)
    (finite : FiniteConstants expr.constants) : Renders Delimited expr.text (Derives expr) := by
  induction writable with
  | constant literal => exact renders_constant literal finite
  | property isPath => exact renders_property isPath
  | parameter isName => exact renders_parameter isName
  | @binary left right operator position isLeft joint isRight ihLeft ihRight =>
    have shape : (Expr.binary left operator right position).text =
        "(" ++ left.text ++ (" " ++ (operator.symbol ++ " ")) ++ right.text ++ ")" := by
      simp only [Expr.text, String.append_assoc]
    rw [shape]
    exact renders_binary (ihLeft finite.left) joint (ihRight finite.right)
  | not isOperand ih => exact renders_not (ih finite)
  | call plain all ih =>
    rw [Expr.text, Expr.argumentTexts_eq]
    refine renders_call plain fun argument member => ih argument member fun constant inside => ?_
    refine finite constant ?_
    rw [Expr.constants, Expr.argumentConstants_eq]
    exact List.mem_flatMap.mpr ⟨argument, member, inside⟩
  | @between value lower upper position isValue isLower isUpper ihValue ihLower ihUpper =>
    exact renders_between (ihValue finite.left) (ihLower finite.right.left)
      (ihUpper finite.right.right)

/-! ### Clauses -/

/-- A clause as it is written behind others. -/
def clauseText (word : Keyword) : Option String → String
  | none => ""
  | some body => " " ++ (TokenKind.keywordTitle word ++ " " ++ body)

/-- The number of documents as it is written in front of what is selected. -/
def topText : Option Nat → String
  | none => ""
  | some count => TokenKind.keywordTitle .top ++ " " ++ toString count ++ " "

/-- A query is written clause by clause. -/
theorem Query.text_eq (query : Query) : query.text =
    "SELECT" ++ " " ++ (topText query.top ++ (", ".intercalate query.selection.items ++
      (" " ++ (query.source.text ++ (clauseText .where (query.condition.map Expr.text) ++
        (clauseText .order (query.order.map fun keys =>
          "BY" ++ " " ++ ", ".intercalate (keys.map OrderKey.text)) ++
            clauseText .limit (query.limit.map toString))))))) := by
  obtain ⟨selection, top, source, condition, order, limit⟩ := query
  have sorted : ∀ rest, "ORDER BY " ++ rest = "ORDER " ++ ("BY " ++ rest) := fun rest =>
    (congrArg (· ++ rest) (show "ORDER BY " = "ORDER " ++ "BY " from rfl)).trans
      String.append_assoc
  cases top <;> cases condition <;> cases order <;> cases limit <;>
    simp [text, clauses, clauseText, topText, TokenKind.keywordTitle, String.append_assoc, sorted]

/-- The tokens are a clause, if there is one. -/
def IsClause {α : Type} (word : Keyword) (reading : α → Reading) (found : Option α) : Reading :=
  fun origin tokens =>
    match found with
    | none => tokens = []
    | some item => ∃ (first : Word word) (body : List Token), tokens = first.val :: body ∧
        reading item origin body

theorem delimited_clauseText (word : Keyword) (body : Option String) {rest : List Char}
    (delimited : Delimited rest) : Delimited ((clauseText word body).toList ++ rest) := by
  cases body with
  | none => exact delimited
  | some body => exact delimited_blank_append _ rest

/-- Clauses delimit what stands before them. -/
theorem delimited_clauseText_append (word : Keyword) (body : Option String) {text : String}
    {rest : List Char} (delimited : Delimited (text.toList ++ rest)) :
    Delimited ((clauseText word body ++ text).toList ++ rest) := by
  rw [String.toList_append, List.append_assoc]
  exact delimited_clauseText word body delimited

theorem renders_clause {α : Type} (word : Keyword) (write : α → String) (reading : α → Reading)
    (found : Option α) (each : ∀ item ∈ found, Renders Delimited (write item) (reading item)) :
    Renders Delimited (clauseText word (found.map write)) (IsClause word reading found) := by
  cases found with
  | none => exact ⟨[], Reads.nil, fun _ _ _ split => List.map_eq_nil_iff.mp split⟩
  | some item =>
    refine (((renders_word word).beforeBlank.append (each item rfl)
      fun _ _ => trivial).behindBlank).mono ?_
    rintro origin _ ⟨_, body, rfl, ⟨first, rfl⟩, means⟩
    exact ⟨first, body, rfl, means⟩

/-- The tokens are a number of documents. -/
def Numbers (count : Nat) : Reading := fun _ tokens =>
  ∃ leaf : Leaf Counts, countTokens leaf = tokens ∧ leaf.value = count

theorem renders_count {count : Nat} (isCount : IsCount count) :
    Renders Delimited (toString count) (Numbers count) :=
  .piece (reads_natural isCount) fun _ token kind _ =>
    ⟨⟨token, count, kind ▸ .integer count⟩, rfl, rfl⟩

/-- The tokens are a number of documents behind its keyword, if there is one. -/
theorem renders_top (top : Option Nat) (counts : ∀ count ∈ top, IsCount count) :
    Renders Anything (topText top) (IsClause .top Numbers top) := by
  cases top with
  | none =>
    exact ⟨[], Reads.nil, fun _ _ _ split => List.map_eq_nil_iff.mp split⟩
  | some count =>
    refine ((renders_word .top).beforeBlank.append (renders_count (counts count rfl))
      fun _ _ => trivial).beforeBlank.mono ?_
    rintro origin _ ⟨_, body, rfl, ⟨first, rfl⟩, means⟩
    exact ⟨first, body, rfl, means⟩

/-- A clause derives if what it holds does. -/
theorem IsClause.exists_clause {α β γ : Type} {word : Keyword} {reading : α → Reading}
    {body : β → List Token} {value : β → γ} {image : α → γ} {fits : β → Prop} {origin : Origin}
    {found : Option α} {tokens : List Token} (isClause : IsClause word reading found origin tokens)
    (derives : ∀ item tokens, reading item origin tokens →
      ∃ phrase, body phrase = tokens ∧ value phrase = image item ∧ fits phrase) :
    ∃ clause : Clause word β, clause.tokens body = tokens ∧
      clause.map (fun held => value held.2) = found.map image ∧ ∀ held ∈ clause, fits held.2 := by
  cases found with
  | none => exact ⟨none, isClause.symm, rfl, fun _ member => absurd member (Option.not_mem_none _)⟩
  | some item =>
    obtain ⟨first, tokens, rfl, means⟩ := isClause
    obtain ⟨phrase, rfl, same, holds⟩ := derives item tokens means
    refine ⟨some (first, phrase), rfl, congrArg some same, ?_⟩
    rintro _ ⟨⟩
    exact holds

theorem Numbers.exists_count {origin : Origin} (count : Nat) (tokens : List Token)
    (numbers : Numbers count origin tokens) : ∃ leaf : Leaf Counts, countTokens leaf = tokens ∧
      leaf.value.toNat = id count ∧ 0 ≤ leaf.value := by
  obtain ⟨leaf, same, value⟩ := numbers
  exact ⟨leaf, same, by rw [value]; rfl, by rw [value]; exact Int.natCast_nonneg count⟩

theorem Derives.exists_whole {origin : Origin} (expr : Expr) (tokens : List Token)
    (derives : Derives expr origin tokens) : ∃ phrase : Phrase (.level (.joined .or)),
      phrase.tokens = tokens ∧ (phrase.value origin).unplaced = expr.unplaced ∧ True := by
  obtain ⟨phrase, rfl, same⟩ := derives
  exact ⟨whole phrase, whole_tokens phrase, same, trivial⟩

/-- The tokens are a selection. -/
def Selects (selection : Selection) : Reading := fun origin tokens =>
  ∃ phrase : SelectPhrase, phrase.tokens = tokens ∧ phrase.value origin = selection

theorem renders_selection {selection : Selection}
    (names : ∀ paths, selection = .paths paths → paths ≠ [] ∧ ∀ path ∈ paths, IsPath path) :
    Renders Delimited (", ".intercalate selection.items) (Selects selection) := by
  cases selection with
  | all =>
    refine (renders_star.weaken fun _ _ => trivial).mono ?_
    rintro origin _ ⟨star, rfl⟩
    exact ⟨.all star, rfl, rfl⟩
  | paths paths =>
    obtain ⟨some, arePaths⟩ := names paths rfl
    have listed := renders_listed id IsReference paths some fun path member =>
      renders_path (arePaths path member)
    rw [List.map_id] at listed
    refine listed.mono fun origin tokens isListed => ?_
    obtain ⟨phrases, rfl, rfl⟩ := isListed.separated
    exact ⟨.paths phrases, rfl, rfl⟩

/-- The tokens are a collection behind its keyword. -/
def Reaches (source : Source) : Reading := fun _ tokens =>
  ∃ (word : Word .from) (leaf : Leaf Names) (phrase : AliasPhrase),
    tokens = word.val :: leaf.token :: phrase.tokens ∧ ⟨leaf.value, phrase.value⟩ = source

theorem renders_source {source : Source} (plain : IsPlain source.name)
    (reference : ∀ name ∈ source.alias?, IsPlain name) :
    Renders Delimited source.text (Reaches source) := by
  obtain ⟨name, alias?⟩ := source
  have named := ((renders_word .from).beforeBlank.append (renders_name plain) fun _ _ => trivial)
    |>.weaken fun _ (delimited : Delimited _) => delimited.endsName
  cases alias? with
  | none =>
    refine named.mono ?_
    rintro origin _ ⟨_, _, rfl, ⟨word, rfl⟩, ⟨leaf, rfl, rfl⟩⟩
    exact ⟨word, leaf, .absent, rfl, rfl⟩
  | some other =>
    have isOther := reference other rfl
    have marked := (renders_word .as).beforeBlank.append (renders_name isOther) fun _ _ => trivial
    have shape : Source.text ⟨name, some other⟩ =
        "FROM" ++ " " ++ name ++ (" " ++ ("AS" ++ " " ++ other)) := by
      have visible : other.isEmpty = false := by
        refine Bool.eq_false_iff.mpr fun empty => ?_
        rw [String.isEmpty_iff.mp empty] at isOther
        exact isOther.1.elim
      simp only [Source.text, Source.reference, Option.getD_some, visible, String.append_assoc]
      rfl
    rw [shape]
    refine ((named.append marked.behindBlank fun rest _ => delimited_blank_append _ rest).weaken
      fun _ delimited => delimited.endsName).mono ?_
    rintro origin _ ⟨_, _, rfl, ⟨_, _, rfl, ⟨word, rfl⟩, ⟨leaf, rfl, rfl⟩⟩,
      ⟨_, _, rfl, ⟨mark, rfl⟩, ⟨leaf', rfl, rfl⟩⟩⟩
    exact ⟨word, leaf, .marked mark leaf', rfl, rfl⟩

/-- The tokens are a key of the order. -/
def Sorts (key : OrderKey) : Reading := fun origin tokens =>
  ∃ phrase : KeyPhrase, phrase.tokens = tokens ∧ phrase.value origin = key

theorem renders_key {key : OrderKey} (isPath : IsPath key.path) :
    Renders Delimited key.text (Sorts key) := by
  obtain ⟨path, descending⟩ := key
  have isReference := renders_path isPath
  cases descending with
  | true =>
    refine (isReference.append (renders_word .desc).behindBlank
      fun rest _ => delimited_blank_append _ rest).mono ?_
    rintro origin _ ⟨_, _, rfl, ⟨phrase, rfl, rfl⟩, ⟨word, rfl⟩⟩
    exact ⟨⟨phrase, .descending word⟩, rfl, rfl⟩
  | false =>
    refine (isReference.append (renders_word .asc).behindBlank
      fun rest _ => delimited_blank_append _ rest).mono ?_
    rintro origin _ ⟨_, _, rfl, ⟨phrase, rfl, rfl⟩, ⟨word, rfl⟩⟩
    exact ⟨⟨phrase, .ascending word⟩, rfl, rfl⟩

/-- The tokens are the keys of an order behind the second keyword. -/
def Orders (keys : List OrderKey) : Reading := fun origin tokens =>
  ∃ order : OrderPhrase, order.tokens = tokens ∧
    order.keys.items.map (KeyPhrase.value origin) = keys

theorem Orders.exists_order {origin : Origin} (keys : List OrderKey) (tokens : List Token)
    (orders : Orders keys origin tokens) : ∃ order : OrderPhrase, order.tokens = tokens ∧
      order.keys.items.map (KeyPhrase.value origin) = id keys ∧ True := by
  obtain ⟨order, same, value⟩ := orders
  exact ⟨order, same, value, trivial⟩

theorem renders_order {keys : List OrderKey} (some : keys ≠ [])
    (arePaths : ∀ key ∈ keys, IsPath key.path) :
    Renders Delimited ("BY" ++ " " ++ ", ".intercalate (keys.map OrderKey.text)) (Orders keys) := by
  have listed := renders_listed OrderKey.text Sorts keys some fun key member =>
    renders_key (arePaths key member)
  refine ((renders_word .by).beforeBlank.append listed fun _ _ => trivial).mono ?_
  rintro origin _ ⟨_, _, rfl, ⟨word, rfl⟩, isListed⟩
  obtain ⟨phrases, rfl, rfl⟩ := isListed.separated
  exact ⟨⟨word, phrases⟩, rfl, rfl⟩

/-! ### Queries -/

/-- **The written form of a query derives the query**, if its numbers are finite. -/
theorem renders_query {query : Query} (writable : query.Writable)
    (finite : FiniteConstants query.constants) :
    Renders Delimited query.text fun origin tokens => ∃ phrase : QueryPhrase,
      phrase.tokens = tokens ∧ phrase.CountsNonnegative ∧
        (phrase.value origin).unplaced = query.unplaced := by
  have top := renders_top query.top writable.top
  have selection := renders_selection writable.selection
  have source := renders_source writable.source writable.reference
  have condition := renders_clause .where Expr.text Derives query.condition
    fun condition member => renders_expr (writable.condition condition member) (by
      rw [Query.constants, show query.condition = some condition from member] at finite
      exact finite)
  have order := renders_clause .order _ Orders query.order fun keys member =>
    renders_order (writable.order keys member).1 (writable.order keys member).2
  have limit := renders_clause .limit toString Numbers query.limit fun count member =>
    renders_count (writable.limit count member)
  rw [query.text_eq]
  refine ((renders_word .select).beforeBlank.append (top.append (selection.append
    (source.append (condition.append (order.append limit ?_) ?_) ?_).behindBlank ?_) ?_) ?_).mono ?_
  · exact fun rest delimited => delimited_clauseText _ _ delimited
  · intro rest delimited
    exact delimited_clauseText_append _ _ (delimited_clauseText _ _ delimited)
  · intro rest delimited
    exact delimited_clauseText_append _ _
      (delimited_clauseText_append _ _ (delimited_clauseText _ _ delimited))
  · exact fun rest _ => delimited_blank_append _ rest
  · exact fun _ _ => trivial
  · exact fun _ _ => trivial
  rintro origin _ ⟨_, _, rfl, ⟨select, rfl⟩, ⟨_, _, rfl, isTop, ⟨_, _, rfl, ⟨selected, rfl, value⟩,
    ⟨_, _, rfl, ⟨word, name, reference, rfl, value'⟩, ⟨_, _, rfl, isCondition,
    ⟨_, _, rfl, isOrder, isLimit⟩⟩⟩⟩⟩⟩
  obtain ⟨topClause, rfl, tops, topNonnegative⟩ := isTop.exists_clause Numbers.exists_count
  obtain ⟨conditionClause, rfl, conditions, -⟩ := isCondition.exists_clause Derives.exists_whole
  obtain ⟨orderClause, rfl, orders, -⟩ := isOrder.exists_clause Orders.exists_order
  obtain ⟨limitClause, rfl, limits, limitNonnegative⟩ := isLimit.exists_clause Numbers.exists_count
  refine ⟨⟨select, topClause, selected, word, name, reference, conditionClause, orderClause,
    limitClause⟩, ?_, ⟨topNonnegative, limitNonnegative⟩, ?_⟩
  · simp [QueryPhrase.tokens, QueryPhrase.closingTokens]
  · rw [Option.map_id] at tops orders limits
    obtain ⟨selection, top, source, condition, order, limit⟩ := query
    simp only [Query.unplaced, QueryPhrase.value, Query.mk.injEq, Option.map_map]
    exact ⟨value, tops, value', conditions, orders, limits⟩

/-! ### Reading what is written -/

theorem trimBlanks_visible {c : Char} (visible : isBlank c = false) (rest : List Char) :
    (trimBlanks (c :: rest)).isEmpty = false := by
  refine List.isEmpty_eq_false_iff.mpr fun empty => ?_
  have behind : (c :: rest).dropWhile isBlank = c :: rest :=
    List.dropWhile_cons_of_neg (Bool.eq_false_iff.mp visible)
  rw [trimBlanks, behind, dropWhileEnd, List.reverse_eq_nil_iff] at empty
  have whole := List.takeWhile_append_dropWhile (p := isBlank) (l := (c :: rest).reverse)
  rw [empty, List.append_nil] at whole
  have blank : isBlank c := List.all_eq_true.mp List.all_takeWhile c (by
    rw [whole]
    exact List.mem_reverse.mpr List.mem_cons_self)
  rw [visible] at blank
  cases blank

/-- A written query is no blank text. -/
theorem read_written (query : Query) :
    Query.read query.text = Query.readWith true query.text.toList := by
  have visible : (trimBlanks query.text.toList).isEmpty = false := by
    rw [query.text_eq, String.toList_append]
    exact trimBlanks_visible rfl _
  rw [Query.read, visible]
  rfl

theorem delimited_nil : Delimited [] := by
  rintro c ⟨⟩

/-- A text that is read from end to end. -/
theorem Renders.scan {text : String} {reading : Reading}
    (renders : Renders Delimited text reading) :
    ∃ tokens stop, scan text.toList = .ok (tokens, stop) ∧
      reading ⟨stop, some text.toList⟩ tokens := by
  obtain ⟨pieces, reads, means⟩ := renders
  have found := reads [] delimited_nil
  rw [List.append_nil, show pieces? [] = some [] from by rw [pieces?.eq_def]] at found
  obtain ⟨tokens, stop, scanned, split⟩ := exists_scan found
  exact ⟨tokens, stop, scanned, means text.toList stop tokens (split.trans (List.append_nil _))⟩

/-- What is read is writable. -/
theorem Query.writable_of_read {text : String} {query : Query}
    (accepted : Query.read text = .ok query) : query.Writable := by
  unfold Query.read at accepted
  split at accepted
  · cases accepted
  obtain ⟨stop, phrase, scanned, nonnegative, rfl⟩ := Query.readWith_eq_ok.mp accepted
  refine phrase.writable stop (fun token member => ?_) nonnegative
  exact pieces?_wellSpelled (scan_pieces scanned) _ (List.mem_map_of_mem member)

/-- A query with finite numbers reads back. -/
theorem Query.read_text_of_finite {query : Query} (writable : query.Writable)
    (finite : FiniteConstants query.constants) :
    ∃ again, Query.read query.text = .ok again ∧ again.unplaced = query.unplaced := by
  obtain ⟨tokens, stop, scanned, ⟨phrase, rfl, nonnegative, same⟩⟩ :=
    (renders_query writable finite).scan
  refine ⟨_, ?_, same⟩
  rw [read_written]
  exact Query.readWith_eq_ok.mpr ⟨stop, phrase, scanned, nonnegative, rfl⟩

end DocQuery
