/-
**The parser looks at one token at a time.**

What a part of the parser does is settled by the tokens that it takes and by the first one behind
them. It takes a word of its language. Or it fails, and what it took before is the beginning of such
a word still.

* `Viable`: some tokens are the beginning of a word of a language;
* `Settled`: the property above of a reader, with one lemma for each way in which readers are put
  together: `Settled.pure`, `Settled.refuse`, `Settled.look`, `Settled.bind`;
* `settled_condition`, `settled_query`: the parsers of conditions and of queries have it, one lemma
  for each rule of the grammar;
* `query_fails_first`: the parser fails at the first token that no query has there.
-/

import DocQuery.Proofs.Query.Acceptance
import DocQuery.Proofs.Query.Reader
import Mathlib.Computability.Language

namespace DocQuery

namespace Parser

open Grammar

/-! ### Beginnings -/

/-- Some tokens are the beginning of a word of a language. -/
def Viable (language : Language Token) (first : List Token) : Prop :=
  ∃ more, first ++ more ∈ language

theorem Viable.mono {language other : Language Token} (sub : ∀ word ∈ language, word ∈ other)
    {first : List Token} (viable : Viable language first) : Viable other first := by
  obtain ⟨more, inside⟩ := viable
  exact ⟨more, sub _ inside⟩

/-- A beginning of a first part begins the whole, if there is a second part. -/
theorem Viable.left {language further : Language Token} {first : List Token}
    (viable : Viable language first) (some : Viable further []) :
    Viable (language * further) first := by
  obtain ⟨more, inside⟩ := viable
  obtain ⟨behind, inside'⟩ := some
  exact ⟨more ++ behind, _, inside, _, inside', List.append_assoc _ _ _⟩

/-- A first part and a beginning of a second one begin the whole. -/
theorem Viable.right {language further : Language Token} {taken first : List Token}
    (inside : taken ∈ language) (viable : Viable further first) :
    Viable (language * further) (taken ++ first) := by
  obtain ⟨more, inside'⟩ := viable
  exact ⟨more, _, inside, _, inside', (List.append_assoc _ _ _).symm⟩

theorem head?_append_congr {first rest other : List Token} (same : other.head? = rest.head?) :
    (first ++ other).head? = (first ++ rest).head? := by
  cases first with
  | nil => exact same
  | cons token more => rfl

/-! ### Readers that look at one token -/

/-- What a reader does with some tokens is settled by the ones that it takes and by the first one
behind them. It takes a word of a language, or it fails in front of the first token with which what
was taken before is not the beginning of such a word. -/
structure Settled {α : Type} (origin : Origin) (language : Language Token) (reader : Reader α)
    (here : List Token) : Prop where
  takes : ∀ found rest, reader here = .ok (found, rest) →
    ∃ first ∈ language, here = first ++ rest ∧
      ∀ other, other.head? = rest.head? → reader (first ++ other) = .ok (found, other)
  fails : ∀ error, reader here = .error error →
    ∃ first rest fault, here = first ++ rest ∧ error = failure origin fault rest ∧
      Viable language first ∧
      ∀ other, other.head? = rest.head? → reader (first ++ other) = .error error

namespace Settled

variable {α β : Type} {origin : Origin} {language : Language Token} {reader : Reader α}
  {next : α → Reader β} {here : List Token}

theorem mono {other : Language Token} (settled : Settled origin language reader here)
    (sub : ∀ word ∈ language, word ∈ other) : Settled origin other reader here := by
  constructor
  · intro found rest taken
    obtain ⟨first, inside, again⟩ := settled.takes found rest taken
    exact ⟨first, sub _ inside, again⟩
  · intro error failed
    obtain ⟨first, rest, fault, split, place, viable, again⟩ := settled.fails error failed
    exact ⟨first, rest, fault, split, place, viable.mono sub, again⟩

theorem pure (empty : [] ∈ language) (value : α) :
    Settled origin language (Pure.pure value : Reader α) here := by
  constructor
  · rintro found rest ⟨⟩
    exact ⟨[], empty, rfl, fun other _ => rfl⟩
  · exact fun _ failed => nomatch failed

theorem refuse (fault : Option Token → GrammarFault) (some : Viable language []) :
    Settled origin language (Parser.refuse origin fault : Reader α) here := by
  constructor
  · exact fun _ _ taken => nomatch taken
  · rintro error ⟨⟩
    refine ⟨[], here, fault here.head?, rfl, rfl, some, fun other same => ?_⟩
    rw [List.nil_append, Parser.refuse, same]
    cases here <;> cases other <;> cases same <;> rfl

/-- One reader behind another takes a word of the one language and then a word of the other. -/
theorem bind (settled : Settled origin language reader here) (further : Language Token)
    (behind : ∀ found rest, reader here = .ok (found, rest) →
      Settled origin further (next found) rest)
    (some : Viable further []) : Settled origin (language * further) (reader >>= next) here := by
  have run (tokens : List Token) :
      (reader >>= next) tokens = reader tokens >>= fun found => next found.1 found.2 := rfl
  constructor
  · intro found rest taken
    obtain ⟨⟨value, middle⟩, isFirst, isNext⟩ := bind_eq_ok.mp taken
    obtain ⟨first, inside, split, again⟩ := settled.takes value middle isFirst
    obtain ⟨first', inside', rfl, again'⟩ := (behind value middle isFirst).takes found rest isNext
    -- Whatever follows, the first reader stops in front of `first'`, or of the same token.
    refine ⟨first ++ first', ⟨first, inside, first', inside', rfl⟩, ?_, fun other same => ?_⟩
    · rw [split, List.append_assoc]
    · rw [List.append_assoc, run, again _ (head?_append_congr same)]
      exact again' other same
  · intro error failed
    rw [run] at failed
    cases isFirst : reader here with
    | error error' =>
      rw [isFirst, error_bind] at failed
      cases failed
      obtain ⟨first, rest, fault, split, place, viable, again⟩ := settled.fails error isFirst
      refine ⟨first, rest, fault, split, place, viable.left some, fun other same => ?_⟩
      rw [run, again other same, error_bind]
    | ok found =>
      obtain ⟨value, middle⟩ := found
      rw [isFirst, ok_bind] at failed
      obtain ⟨first, inside, split, again⟩ := settled.takes value middle isFirst
      obtain ⟨first', rest, fault, rfl, place, viable, again'⟩ :=
        (behind value middle isFirst).fails error failed
      refine ⟨first ++ first', rest, fault, ?_, place, viable.right inside, fun other same => ?_⟩
      · rw [split, List.append_assoc]
      · rw [List.append_assoc, run, again _ (head?_append_congr same)]
        exact again' other same

theorem map (settled : Settled origin language reader here) (result : α → β) :
    Settled origin language (reader >>= fun found => Pure.pure (result found)) here := by
  rw [← mul_one language]
  exact settled.bind 1 (fun found _ _ => .pure Language.nil_mem_one (result found))
    ⟨[], Language.nil_mem_one⟩

/-- A reader that does the same with all tokens that begin like these. -/
theorem congr_head {other : Reader α} (settled : Settled origin language reader here)
    (same : ∀ tokens, tokens.head? = here.head? → other tokens = reader tokens) :
    Settled origin language other here := by
  constructor
  · intro found rest taken
    rw [same here rfl] at taken
    obtain ⟨first, inside, rfl, again⟩ := settled.takes found rest taken
    refine ⟨first, inside, rfl, fun tokens sameHead => ?_⟩
    rw [same _ (head?_append_congr sameHead), again tokens sameHead]
  · intro error failed
    rw [same here rfl] at failed
    obtain ⟨first, rest, fault, rfl, place, viable, again⟩ := settled.fails error failed
    refine ⟨first, rest, fault, rfl, place, viable, fun tokens sameHead => ?_⟩
    rw [same _ (head?_append_congr sameHead), again tokens sameHead]

/-- A reader that goes on as another one behind a token. -/
theorem cons {other : Reader α} {token : Token} {rest : List Token}
    (settled : Settled origin {word | token :: word ∈ language} reader rest)
    (same : ∀ tokens, other (token :: tokens) = reader tokens) :
    Settled origin language other (token :: rest) := by
  constructor
  · intro found behind taken
    rw [same] at taken
    obtain ⟨first, inside, rfl, again⟩ := settled.takes found behind taken
    refine ⟨token :: first, inside, rfl, fun tokens sameHead => ?_⟩
    rw [List.cons_append, same, again tokens sameHead]
  · intro error failed
    rw [same] at failed
    obtain ⟨first, behind, fault, rfl, place, viable, again⟩ := settled.fails error failed
    refine ⟨token :: first, behind, fault, rfl, place, viable, fun tokens sameHead => ?_⟩
    rw [List.cons_append, same, again tokens sameHead]

/-- Where something is found in the first token, the reader behind it has to take what makes a word
together with it. -/
theorem look {peek : Token → Option β} {present : β → Reader α} {absent : Reader α}
    (isPresent : ∀ token rest found, here = token :: rest → peek token = some found →
      Settled origin {word | token :: word ∈ language} (present found) rest)
    (isAbsent : Settled origin language absent here) :
    Settled origin language (Parser.look peek present absent) here := by
  cases here with
  | nil =>
    refine isAbsent.congr_head fun tokens same => ?_
    rw [List.head?_eq_none_iff.mp same]
    rfl
  | cons token rest =>
    cases seen : peek token with
    | some found =>
      refine (isPresent token rest found rfl seen).cons fun tokens => ?_
      rw [Parser.look, seen]
    | none =>
      refine isAbsent.congr_head fun tokens same => ?_
      obtain ⟨rest', rfl⟩ := List.head?_eq_some_iff.mp same
      rw [Parser.look, seen]

theorem take {peek : Token → Option β} {fault : Option Token → GrammarFault}
    (fits : ∀ token found, peek token = some found → [token] ∈ language)
    (some : Viable language []) :
    Settled origin language (Parser.take origin peek fault) here :=
  look (fun token _ found _ seen => .pure (fits token found seen) found) (.refuse fault some)

end Settled

/-! ### Languages -/

/-- The words that the derivations of a kind derive. -/
def derived {α : Type} (tokens : α → List Token) : Language Token := Set.range tokens

theorem mem_derived {α : Type} {tokens : α → List Token} (phrase : α) :
    tokens phrase ∈ derived tokens := ⟨phrase, rfl⟩

theorem viable_derived {α : Type} [found : Nonempty α] (tokens : α → List Token) :
    Viable (derived tokens) [] := by
  obtain ⟨phrase⟩ := found
  exact ⟨tokens phrase, phrase, rfl⟩

/-- A token that stands nowhere. -/
def unplaced (kind : TokenKind) : Token := ⟨kind, .origin, 0⟩

instance (word : Keyword) : Nonempty (Word word) :=
  ⟨⟨unplaced (.keyword word ""), "", rfl⟩⟩

instance (mark : Symbol) : Nonempty (Mark mark) :=
  ⟨⟨unplaced (.symbol mark ""), "", rfl⟩⟩

instance : Nonempty (Leaf Names) := ⟨⟨unplaced (.identifier "x"), "x", .identifier "x"⟩⟩

instance : Nonempty (Leaf Compares) := ⟨⟨unplaced (.symbol .equal "="), .equal, .equal "="⟩⟩

instance : Nonempty Path := ⟨⟨Classical.arbitrary _, []⟩⟩

instance : Nonempty KeyPhrase := ⟨⟨Classical.arbitrary _, .unmarked⟩⟩

instance {α : Type} [Nonempty α] : Nonempty (Separated α) := ⟨⟨Classical.arbitrary _, []⟩⟩

instance : Nonempty OrderPhrase := ⟨⟨Classical.arbitrary _, Classical.arbitrary _⟩⟩

instance {word : Keyword} {α : Type} : Nonempty (Clause word α) := ⟨none⟩

instance : Nonempty SelectPhrase := ⟨.all (Classical.arbitrary _)⟩

instance : Nonempty AliasPhrase := ⟨.absent⟩

instance : Nonempty Direction := ⟨.unmarked⟩

/-- The integers that count documents. -/
abbrev Natural := { count : Leaf Counts // 0 ≤ count.value }

instance : Nonempty Natural := ⟨⟨⟨unplaced (.integer 0), 0, .integer 0⟩, Int.le_refl 0⟩⟩

instance (level : Grammar.Level) : Nonempty (Phrase (.level level)) := by
  have operand : Phrase (.level .operand) := .literal ⟨unplaced .null, .null, .null⟩
  have comparison : Phrase (.level .comparison) := .single (.plain (.positive operand))
  have conjunct : Phrase (.level (.joined .and)) := .joined comparison .finished
  cases level with
  | operand => exact ⟨operand⟩
  | negated => exact ⟨.positive operand⟩
  | ranged => exact ⟨.plain (.positive operand)⟩
  | comparison => exact ⟨comparison⟩
  | joined junction =>
    cases junction with
    | and => exact ⟨conjunct⟩
    | or => exact ⟨.joined conjunct .finished⟩

instance (junction : Junction) : Nonempty (Phrase (.further junction)) := ⟨.finished⟩

instance : Nonempty (Phrase .moreArguments) := ⟨.noFurtherArgument⟩

instance : Nonempty (Phrase .arguments) := ⟨.noArguments⟩

/-- The words of a category. -/
abbrev phrases (category : Category) : Language Token := derived (@Phrase.tokens category)

/-- The words of one token that is a given symbol. -/
abbrev marks (mark : Symbol) : Language Token := derived fun found : Mark mark => [found.val]

/-- The words of one token that is a given keyword. -/
abbrev words (word : Keyword) : Language Token := derived fun found : Word word => [found.val]

/-- The words of one token that stands for something. -/
abbrev leaves {α : Type} (stands : TokenKind → α → Prop) : Language Token :=
  derived fun leaf : Leaf stands => [leaf.token]

theorem isSymbol_of_symbolAt {mark : Symbol} {token : Token} {found : Unit}
    (seen : symbolAt mark token = some found) : IsSymbol mark token.kind := by
  obtain ⟨kind, position, length⟩ := token
  cases kind with
  | symbol mark' spelling =>
    by_cases same : mark' = mark
    · exact ⟨spelling, by rw [same]⟩
    · simp [symbolAt, same] at seen
  | _ => cases seen

theorem isKeyword_of_keywordAt {word : Keyword} {token : Token} {found : Position}
    (seen : keywordAt word token = some found) : IsKeyword word token.kind := by
  obtain ⟨kind, position, length⟩ := token
  cases kind with
  | keyword word' spelling =>
    by_cases same : word' = word
    · exact ⟨spelling, by rw [same]⟩
    · simp [keywordAt, same] at seen
  | _ => cases seen

theorem names_of_nameAt {token : Token} {found : String × Position}
    (seen : nameAt token = some found) : Names token.kind found.1 := by
  obtain ⟨kind, position, length⟩ := token
  cases kind with
  | identifier name =>
    cases seen
    exact .identifier name
  | _ => cases seen

theorem binds_of_parameterAt {token : Token} {found : String × Position}
    (seen : parameterAt token = some found) : Binds token.kind found.1 := by
  obtain ⟨kind, position, length⟩ := token
  cases kind with
  | parameter name =>
    cases seen
    exact .parameter name
  | _ => cases seen

theorem denotes_of_literalAt {token : Token} {found : Json × Position}
    (seen : literalAt token = some found) : Denotes token.kind found.1 := by
  obtain ⟨value, isLiteral, rfl⟩ := Option.map_eq_some_iff.mp seen
  exact literal?_iff.mp isLiteral

theorem compares_of_comparisonAt {token : Token} {found : Operator × Position}
    (seen : comparisonAt token = some found) : Compares token.kind found.1 := by
  obtain ⟨operator, isOperator, rfl⟩ := Option.map_eq_some_iff.mp seen
  exact operatorOf?_iff.mp isOperator

/-! ### Paths -/

section Settles

variable (origin : Origin)

theorem settled_symbol (mark : Symbol) (fault : GrammarFault) (here : List Token) :
    Settled origin (marks mark) (take origin (symbolAt mark) fun _ => fault) here :=
  .take (fun token _ seen => ⟨⟨token, isSymbol_of_symbolAt seen⟩, rfl⟩) (viable_derived _)

theorem settled_keyword (word : Keyword) (fault : GrammarFault) (here : List Token) :
    Settled origin (words word) (take origin (keywordAt word) fun _ => fault) here :=
  .take (fun token _ seen => ⟨⟨token, isKeyword_of_keywordAt seen⟩, rfl⟩) (viable_derived _)

theorem settled_name (fault : GrammarFault) (here : List Token) :
    Settled origin (leaves Names) (take origin nameAt fun _ => fault) here :=
  .take (fun token found seen => ⟨⟨token, found.1, names_of_nameAt seen⟩, rfl⟩) (viable_derived _)

/-- The names of a path are settled, by induction on the number of tokens that are left. -/
theorem settled_segments (here : List Token) :
    Settled origin (derived (List.flatMap Segment.tokens)) (reading (moreSegments origin))
      here := by
  rw [reading_moreSegments]
  refine .look (fun token rest found split isDot => ?_) (.pure (mem_derived []) [])
  have name : Settled origin (derived fun name : { token : Token // IsSegment token.kind } =>
      [name.val]) (reading (segment origin)) rest := by
    rw [reading_segment]
    have sample : { token : Token // IsSegment token.kind } :=
      ⟨unplaced (.identifier "x"), .identifier "x"⟩
    refine .take (fun token _ seen => ?_) ⟨_, sample, rfl⟩
    split at seen
    · next isName => exact ⟨⟨token, isSegment_iff.mp isName⟩, rfl⟩
    · cases seen
  refine (name.bind (derived (List.flatMap Segment.tokens))
    (fun name rest' taken => (settled_segments rest').map (name :: ·)) ⟨[], [], rfl⟩).mono ?_
  rintro _ ⟨_, ⟨name, rfl⟩, _, ⟨segments, rfl⟩, rfl⟩
  exact ⟨⟨⟨token, isSymbol_of_symbolAt isDot⟩, name.val, name.property⟩ :: segments, rfl⟩
termination_by here.length
decreasing_by
  have shorter := reading_shorter taken
  rw [split, List.length_cons]
  omega

theorem settled_path (here : List Token) :
    Settled origin (derived Path.tokens) (reading (path origin)) here := by
  rw [reading_path]
  refine ((settled_name origin _ here).bind (derived (List.flatMap Segment.tokens))
    (fun first rest _ => (settled_segments origin rest).map _) ⟨[], [], rfl⟩).mono ?_
  rintro _ ⟨_, ⟨first, rfl⟩, _, ⟨segments, rfl⟩, rfl⟩
  exact ⟨⟨first, segments⟩, rfl⟩

/-! ### Conditions -/

/-- What the reader of a level does with some tokens is settled. -/
abbrev SettledLevel (level : Grammar.Level) (here : List Token) : Prop :=
  Settled origin (phrases (.level level)) (levelReader origin level) here

variable {origin}

theorem settled_arguments (here : List Token)
    (inner : ∀ rest, rest.length ≤ here.length → SettledLevel origin (.joined .or) rest) :
    Settled origin (phrases (.level (.joined .or)) * (phrases .moreArguments * marks .rightParen))
      (argumentsReader origin) here := by
  rw [argumentsReader_eq]
  refine (inner here (Nat.le_refl _)).bind _ (fun argument behind taken => ?_)
    ((viable_derived _).left (viable_derived _))
  have shorter := levelReader_shorter taken
  refine .look (fun token rest _ split isComma => ?_) ?_
  · have fewer : rest.length < here.length := by
      rw [split, List.length_cons] at shorter
      omega
    refine ((settled_arguments rest fun rest' fewer' => inner rest' (by omega)).map _).mono ?_
    rintro _ ⟨_, ⟨next, rfl⟩, _, ⟨_, ⟨more, rfl⟩, _, ⟨closing, rfl⟩, rfl⟩, rfl⟩
    exact ⟨_, ⟨.furtherArgument ⟨token, isSymbol_of_symbolAt isComma⟩ next more, rfl⟩, _,
      ⟨closing, rfl⟩, by simp [Phrase.tokens]⟩
  · refine ((settled_symbol origin .rightParen _ behind).map _).mono ?_
    rintro _ ⟨closing, rfl⟩
    exact ⟨_, ⟨.noFurtherArgument, rfl⟩, _, ⟨closing, rfl⟩, rfl⟩
termination_by here.length

/-- The arguments of a call, with the closing parenthesis. -/
theorem settled_call (here : List Token)
    (inner : ∀ rest, rest.length ≤ here.length → SettledLevel origin (.joined .or) rest) :
    Settled origin (phrases .arguments * marks .rightParen) (callReader origin) here := by
  refine .look (fun token rest _ split isClosing => .pure ?_ _) ?_
  · exact ⟨_, ⟨.noArguments, rfl⟩, _, ⟨⟨token, isSymbol_of_symbolAt isClosing⟩, rfl⟩, rfl⟩
  · refine (settled_arguments here inner).mono ?_
    rintro _ ⟨_, ⟨first, rfl⟩, _, ⟨_, ⟨more, rfl⟩, closing, inside, rfl⟩, rfl⟩
    exact ⟨_, ⟨.someArguments first more, rfl⟩, closing, inside, List.append_assoc _ _ _⟩

/-- An operand is settled if conditions are that begin behind its first token. -/
theorem settled_operand {here : List Token}
    (inner : ∀ rest, rest.length < here.length → SettledLevel origin (.joined .or) rest) :
    SettledLevel origin .operand here := by
  unfold SettledLevel
  rw [levelReader_operand]
  refine .look (fun token rest found split isLiteral => .pure ?_ _) ?_
  · exact ⟨.literal ⟨token, found.1, denotes_of_literalAt isLiteral⟩, rfl⟩
  refine .look (fun token rest found split isParameter => .pure ?_ _) ?_
  · exact ⟨.parameter ⟨token, found.1, binds_of_parameterAt isParameter⟩, rfl⟩
  refine .look (fun token rest _ split isOpening => ?_) ?_
  · have condition := inner rest (by rw [split]; exact Nat.lt_succ_self _)
    refine (condition.bind (marks .rightParen) (fun found behind _ =>
      (settled_symbol origin .rightParen .expectedClosing behind).map fun _ => found)
      (viable_derived _)).mono ?_
    rintro _ ⟨_, ⟨inner, rfl⟩, _, ⟨closing, rfl⟩, rfl⟩
    exact ⟨.group ⟨token, isSymbol_of_symbolAt isOpening⟩ inner closing, rfl⟩
  -- What begins with a name is a call or a path, as the second token shows.
  refine .look (fun token rest found split isName => ?_) (.refuse _ (viable_derived _))
  refine .look (fun opening behind _ split' isOpening => ?_) ?_
  · refine ((settled_call behind fun rest' fewer => inner rest' ?_).map _).mono ?_
    · rw [split, split', List.length_cons, List.length_cons]
      omega
    · rintro _ ⟨_, ⟨given, rfl⟩, _, ⟨closing, rfl⟩, rfl⟩
      exact ⟨.call ⟨token, found.1, names_of_nameAt isName⟩
        ⟨opening, isSymbol_of_symbolAt isOpening⟩ given closing, rfl⟩
  · refine ((settled_segments origin rest).map _).mono ?_
    rintro _ ⟨segments, rfl⟩
    exact ⟨.property ⟨⟨token, found.1, names_of_nameAt isName⟩, segments⟩, rfl⟩

theorem settled_negated (here : List Token)
    (operand : ∀ rest, rest.length ≤ here.length → SettledLevel origin .operand rest) :
    SettledLevel origin .negated here := by
  unfold SettledLevel
  rw [levelReader_negated]
  refine .look (fun token rest _ split isWord => ?_) ?_
  · have fewer : rest.length < here.length := by
      rw [split]
      exact Nat.lt_succ_self _
    refine ((settled_negated rest fun rest' fewer' => operand rest' (by omega)).map _).mono ?_
    rintro _ ⟨inner, rfl⟩
    exact ⟨.not ⟨token, isKeyword_of_keywordAt isWord⟩ inner, rfl⟩
  · refine (operand here (Nat.le_refl _)).mono ?_
    rintro _ ⟨inner, rfl⟩
    exact ⟨.positive inner, rfl⟩
termination_by here.length

theorem settled_range {here : List Token}
    (negated : ∀ rest, rest.length ≤ here.length → SettledLevel origin .negated rest) :
    Settled origin (phrases (.level .negated) * (words .and * phrases (.level .negated)))
      (rangeReader origin) here := by
  refine (negated here (Nat.le_refl _)).bind _ (fun lower behind taken => ?_)
    ((viable_derived _).left (viable_derived _))
  refine (settled_keyword origin .and _ behind).bind _ (fun _ behindAnd taken' => ?_)
    (viable_derived _)
  have shorter := levelReader_shorter taken
  have shorter' := take_shorter taken'
  exact (negated behindAnd (by omega)).map _

theorem settled_ranged {here : List Token}
    (negated : ∀ rest, rest.length ≤ here.length → SettledLevel origin .negated rest) :
    SettledLevel origin .ranged here := by
  unfold SettledLevel
  rw [levelReader_ranged]
  refine ((negated here (Nat.le_refl _)).bind (1 + words .between *
    (phrases (.level .negated) * (words .and * phrases (.level .negated))))
    (fun value behind taken => ?_) ⟨[], .inl rfl⟩).mono ?_
  · refine .look (fun token rest _ split isWord => ?_) (.pure (.inl rfl) _)
    have shorter := levelReader_shorter taken
    rw [split, List.length_cons] at shorter
    refine ((settled_range fun rest' fewer => negated rest' (by omega)).map _).mono
      fun word inside => ?_
    exact .inr ⟨_, mem_derived ⟨token, isKeyword_of_keywordAt isWord⟩, word, inside, rfl⟩
  · rintro _ ⟨_, ⟨inner, rfl⟩, _, rfl | ⟨_, ⟨word, rfl⟩, _, ⟨_, ⟨lower, rfl⟩, _,
      ⟨_, ⟨joint, rfl⟩, _, ⟨upper, rfl⟩, rfl⟩, rfl⟩, rfl⟩, rfl⟩
    · exact ⟨.plain inner, (List.append_nil _).symm⟩
    · exact ⟨.between inner word lower joint upper, rfl⟩

theorem settled_comparison {here : List Token}
    (ranged : ∀ rest, rest.length ≤ here.length → SettledLevel origin .ranged rest) :
    SettledLevel origin .comparison here := by
  unfold SettledLevel
  rw [levelReader_comparison]
  refine ((ranged here (Nat.le_refl _)).bind (1 + leaves Compares * phrases (.level .ranged))
    (fun left behind taken => ?_) ⟨[], .inl rfl⟩).mono ?_
  · refine .look (fun token rest found split isSign => ?_) (.pure (.inl rfl) _)
    have shorter := levelReader_shorter taken
    rw [split, List.length_cons] at shorter
    refine ((ranged rest (by omega)).map _).mono fun word inside => ?_
    exact .inr ⟨_, ⟨⟨token, found.1, compares_of_comparisonAt isSign⟩, rfl⟩, word, inside, rfl⟩
  · rintro _ ⟨_, ⟨left, rfl⟩, _, rfl | ⟨_, ⟨operator, rfl⟩, _, ⟨right, rfl⟩, rfl⟩, rfl⟩
    · exact ⟨.single left, (List.append_nil _).symm⟩
    · exact ⟨.compared left operator right, rfl⟩

theorem settled_further (junction : Junction) (left : Expr) (here : List Token)
    (part : ∀ rest, rest.length ≤ here.length → SettledLevel origin junction.part rest) :
    Settled origin (phrases (.further junction)) (furtherReader origin junction left) here := by
  rw [furtherReader_eq]
  refine .look (fun token rest _ split isWord => ?_) (.pure (mem_derived Phrase.finished) left)
  have fewer : rest.length < here.length := by
    rw [split]
    exact Nat.lt_succ_self _
  refine ((part rest (Nat.le_of_lt fewer)).bind (phrases (.further junction))
    (fun right behind taken => ?_) (viable_derived _)).mono ?_
  · have shorter := levelReader_shorter taken
    exact settled_further junction _ behind fun rest' fewer' => part rest' (by omega)
  · rintro _ ⟨_, ⟨next, rfl⟩, _, ⟨more, rfl⟩, rfl⟩
    exact ⟨.further ⟨token, isKeyword_of_keywordAt isWord⟩ next more, rfl⟩
termination_by here.length

theorem settled_joined (junction : Junction) {here : List Token}
    (part : ∀ rest, rest.length ≤ here.length → SettledLevel origin junction.part rest) :
    SettledLevel origin (.joined junction) here := by
  unfold SettledLevel
  rw [levelReader_joined]
  refine ((part here (Nat.le_refl _)).bind (phrases (.further junction))
    (fun left behind taken => ?_) (viable_derived _)).mono ?_
  · have shorter := levelReader_shorter taken
    exact settled_further junction left behind fun rest fewer => part rest (by omega)
  · rintro _ ⟨_, ⟨first, rfl⟩, _, ⟨more, rfl⟩, rfl⟩
    exact ⟨.joined first more, rfl⟩

/-- **What the parser of conditions does is settled**, by induction on the number of tokens: a whole
condition is only read in a condition behind an opening parenthesis. -/
theorem settled_condition (here : List Token) : SettledLevel origin (.joined .or) here := by
  have operand (rest : List Token) (fewer : rest.length ≤ here.length) :
      SettledLevel origin .operand rest :=
    settled_operand fun rest' fewer' => settled_condition rest'
  have negated (rest : List Token) (fewer : rest.length ≤ here.length) :
      SettledLevel origin .negated rest :=
    settled_negated rest fun rest' fewer' => operand rest' (Nat.le_trans fewer' fewer)
  have ranged (rest : List Token) (fewer : rest.length ≤ here.length) :
      SettledLevel origin .ranged rest :=
    settled_ranged fun rest' fewer' => negated rest' (Nat.le_trans fewer' fewer)
  have comparison (rest : List Token) (fewer : rest.length ≤ here.length) :
      SettledLevel origin .comparison rest :=
    settled_comparison fun rest' fewer' => ranged rest' (Nat.le_trans fewer' fewer)
  have conjunct (rest : List Token) (fewer : rest.length ≤ here.length) :
      SettledLevel origin (.joined .and) rest :=
    settled_joined .and fun rest' fewer' => comparison rest' (Nat.le_trans fewer' fewer)
  exact settled_joined .or conjunct
termination_by here.length

/-! ### Clauses -/

variable (origin)

/-- Items with commas between them are settled if each of them is. -/
theorem settled_separated {α β : Type} {item : (here : List Token) → Step β here}
    {tokens : α → List Token} [Nonempty α]
    (inside : ∀ here, Settled origin (derived tokens) (reading item) here) (here : List Token) :
    Settled origin (derived (Separated.tokens tokens)) (reading (separated item)) here := by
  rw [reading_separated]
  refine ((inside here).bind (1 + marks .comma * derived (Separated.tokens tokens))
    (fun first behind taken => ?_) ⟨[], .inl rfl⟩).mono ?_
  · refine .look (fun token rest _ split isComma => ?_) (.pure (.inl rfl) _)
    have shorter := reading_shorter taken
    have fewer : rest.length < here.length := by
      rw [split, List.length_cons] at shorter
      omega
    refine ((settled_separated inside rest).map _).mono fun word inside => ?_
    exact .inr ⟨_, mem_derived ⟨token, isSymbol_of_symbolAt isComma⟩, word, inside, rfl⟩
  · rintro _ ⟨_, ⟨first, rfl⟩, _, rfl | ⟨_, ⟨comma, rfl⟩, _, ⟨⟨second, more⟩, rfl⟩, rfl⟩, rfl⟩
    · exact ⟨⟨first, []⟩, by simp [Separated.tokens]⟩
    · exact ⟨⟨first, (comma, second) :: more⟩, by simp [Separated.tokens]⟩
termination_by here.length

theorem settled_orderKey (here : List Token) :
    Settled origin (derived KeyPhrase.tokens) (reading (orderKey origin)) here := by
  rw [reading_orderKey]
  refine ((settled_path origin here).bind (derived Direction.tokens) (fun found behind _ => ?_)
    (viable_derived _)).mono ?_
  · refine .look (fun token rest _ split isWord => .pure ?_ _) ?_
    · exact ⟨.descending ⟨token, isKeyword_of_keywordAt isWord⟩, rfl⟩
    refine .look (fun token rest _ split isWord => .pure ?_ _) ?_
    · exact ⟨.ascending ⟨token, isKeyword_of_keywordAt isWord⟩, rfl⟩
    · exact .pure (mem_derived Direction.unmarked) _
  · rintro _ ⟨_, ⟨path, rfl⟩, _, ⟨direction, rfl⟩, rfl⟩
    exact mem_derived (KeyPhrase.mk path direction)

/-- The tokens of one such integer. -/
def naturalTokens (count : Natural) : List Token := countTokens count.val

theorem settled_expectCount (clause : Keyword) (here : List Token) :
    Settled origin (derived naturalTokens) (reading (expectCount origin clause)) here := by
  rw [reading_expectCount]
  refine .take (fun token found seen => ?_) (viable_derived _)
  obtain ⟨kind, position, length⟩ := token
  cases kind with
  | integer value =>
    by_cases negative : value < 0
    · simp [countAt, negative] at seen
    · exact mem_derived (⟨⟨_, value, .integer value⟩, Int.not_lt.mp negative⟩ : Natural)
  | _ => cases seen

/-- The words of a clause that may be left out. -/
abbrev clauses {α : Type} (word : Keyword) (tokens : α → List Token) : Language Token :=
  derived (Clause.tokens tokens : Clause word α → List Token)

/-- A clause is settled if what stands behind its keyword is. -/
theorem settled_clause? {α β : Type} {word : Keyword} {body : Reader β}
    {tokens : α → List Token}
    (inside : ∀ here, Settled origin (derived tokens) body here) (here : List Token) :
    Settled origin (clauses word tokens) (StateT.mk (clause? word body)) here := by
  rw [clause?_eq]
  have absent : [] ∈ clauses word tokens := ⟨none, rfl⟩
  refine .look (fun token rest _ split isWord => ?_) (.pure absent none)
  refine ((inside rest).map _).mono ?_
  rintro _ ⟨found, rfl⟩
  exact ⟨some (⟨token, isKeyword_of_keywordAt isWord⟩, found), rfl⟩

theorem settled_selection (here : List Token) :
    Settled origin (derived SelectPhrase.tokens) (StateT.mk (selection origin)) here := by
  rw [selection_eq]
  refine .look (fun token rest _ split isStar => .pure ?_ _) ?_
  · exact ⟨.all ⟨token, isSymbol_of_symbolAt isStar⟩, rfl⟩
  · refine ((settled_separated origin (settled_path origin) here).map _).mono ?_
    rintro _ ⟨listed, rfl⟩
    exact ⟨.paths listed, rfl⟩

theorem settled_alias? (here : List Token) :
    Settled origin (derived AliasPhrase.tokens) (StateT.mk (alias? origin)) here := by
  rw [alias?_eq]
  refine .look (fun token rest _ split isWord => ?_) ?_
  · refine ((settled_name origin _ rest).map _).mono ?_
    rintro _ ⟨name, rfl⟩
    exact ⟨.marked ⟨token, isKeyword_of_keywordAt isWord⟩ name, rfl⟩
  refine .look (fun token rest found split isName => .pure ?_ _)
    (.pure (mem_derived AliasPhrase.absent) none)
  exact ⟨.plain ⟨token, found.1, names_of_nameAt isName⟩, rfl⟩

theorem settled_source (here : List Token) :
    Settled origin (leaves Names * derived AliasPhrase.tokens) (StateT.mk (source origin))
      here := by
  rw [source_eq]
  exact (settled_name origin _ here).bind _ (fun _ rest _ => (settled_alias? origin rest).map _)
    (viable_derived _)

theorem settled_orderKeys (here : List Token) :
    Settled origin (derived OrderPhrase.tokens) (StateT.mk (orderKeys origin)) here := by
  rw [orderKeys_eq]
  refine ((settled_keyword origin .by _ here).bind _
    (fun _ rest _ => settled_separated origin (settled_orderKey origin) rest)
    (viable_derived _)).mono ?_
  rintro _ ⟨_, ⟨word, rfl⟩, _, ⟨keys, rfl⟩, rfl⟩
  exact mem_derived (OrderPhrase.mk word keys)

/-- The words that are queries. -/
def queries : Language Token :=
  derived fun phrase : { phrase : QueryPhrase // phrase.CountsNonnegative } => phrase.val.tokens

theorem settled_finish (here : List Token) : Settled origin 1 (finish origin) here := by
  cases here with
  | nil =>
    refine (Settled.pure Language.nil_mem_one ()).congr_head fun tokens same => ?_
    rw [List.head?_eq_none_iff.mp same]
    rfl
  | cons token rest =>
    refine (Settled.refuse (fun _ => .unexpectedToken token.kind)
      ⟨[], Language.nil_mem_one⟩).congr_head fun tokens same => ?_
    obtain ⟨rest', rfl⟩ := List.head?_eq_some_iff.mp same
    rfl

/-- The tokens of a clause that counts documents are those of an integer that is not negative. -/
theorem exists_count {word : Keyword} (clause : Clause word Natural) :
    ∃ counted : Clause word (Leaf Counts), (∀ found ∈ counted, 0 ≤ found.2.value) ∧
      counted.tokens countTokens = clause.tokens naturalTokens := by
  refine ⟨clause.map fun found => (found.1, found.2.val), fun counted member => ?_, ?_⟩
  · obtain ⟨found, -, rfl⟩ := Option.map_eq_some_iff.mp member
    exact found.2.property
  · cases clause <;> rfl

theorem mem_queries {tokens : List Token} (inside : tokens ∈ words .select *
    (clauses .top naturalTokens * (derived SelectPhrase.tokens * (words .from *
      (leaves Names * derived AliasPhrase.tokens *
        (clauses .where (@Phrase.tokens (.level (.joined .or))) *
          (clauses .order OrderPhrase.tokens * (clauses .limit naturalTokens * 1)))))))) :
    tokens ∈ queries := by
  obtain ⟨_, ⟨select, rfl⟩, _, ⟨_, ⟨top, rfl⟩, _, ⟨_, ⟨selection, rfl⟩, _, ⟨_, ⟨word, rfl⟩, _,
    ⟨_, ⟨_, ⟨name, rfl⟩, _, ⟨reference, rfl⟩, rfl⟩, _, ⟨_, ⟨condition, rfl⟩, _,
    ⟨_, ⟨order, rfl⟩, _, ⟨_, ⟨limit, rfl⟩, _, rfl, rfl⟩, rfl⟩, rfl⟩, rfl⟩, rfl⟩, rfl⟩, rfl⟩,
    rfl⟩ := inside
  obtain ⟨top, topNonnegative, topTokens⟩ := exists_count top
  obtain ⟨limit, limitNonnegative, limitTokens⟩ := exists_count limit
  refine ⟨⟨⟨select, top, selection, word, name, reference, condition, order, limit⟩,
    topNonnegative, limitNonnegative⟩, ?_⟩
  simp [QueryPhrase.tokens, QueryPhrase.closingTokens, topTokens, limitTokens]

/-- **What the parser does is settled.** Each part is so, and what is behind it can be completed. -/
theorem settled_query (here : List Token) :
    Settled origin queries (queryReader origin) here := by
  have limit := (viable_derived (Clause.tokens naturalTokens : Clause .limit Natural → _)).left
    (show Viable 1 [] from ⟨[], rfl⟩)
  have order := (viable_derived (Clause.tokens OrderPhrase.tokens : Clause .order _ → _)).left limit
  have condition := (viable_derived (Clause.tokens (@Phrase.tokens (.level (.joined .or))) :
    Clause .where _ → _)).left order
  have source := ((viable_derived fun leaf : Leaf Names => [leaf.token]).left
    (viable_derived AliasPhrase.tokens)).left condition
  have word := (viable_derived fun word : Word .from => [word.val]).left source
  have selection := (viable_derived SelectPhrase.tokens).left word
  have top := (viable_derived (Clause.tokens naturalTokens : Clause .top Natural → _)).left
    selection
  refine ((settled_keyword origin .select _ here).bind _ (fun _ rest _ => ?_) top).mono
    fun _ => mem_queries
  refine (settled_clause? origin (settled_expectCount origin .top) rest).bind _
    (fun top rest _ => ?_) selection
  refine (settled_selection origin rest).bind _ (fun selection rest _ => ?_) word
  refine (settled_keyword origin .from _ rest).bind _ (fun _ rest _ => ?_) source
  refine (settled_source origin rest).bind _ (fun source rest _ => ?_) condition
  refine (settled_clause? origin settled_condition rest).bind _ (fun condition rest _ => ?_) order
  refine (settled_clause? origin (settled_orderKeys origin) rest).bind _
    (fun order rest _ => ?_) limit
  refine (settled_clause? origin (settled_expectCount origin .limit) rest).bind _
    (fun limit rest _ => ?_) ⟨[], rfl⟩
  exact (settled_finish origin rest).map _

/-- **The parser fails at the first token that no query has there**: what is in front of it begins a
query, and no query begins so and goes on with it. -/
theorem query_fails_first {tokens : List Token} {error : GrammarError}
    (failed : query origin tokens = .error error) :
    ∃ first rest fault, tokens = first ++ rest ∧ error = failure origin fault rest ∧
      Viable queries first ∧ ∀ other, other.head? = rest.head? → first ++ other ∉ queries := by
  rw [query_eq] at failed
  have failed : queryReader origin tokens = .error error := by
    cases result : queryReader origin tokens with
    | error error' =>
      rw [result] at failed
      cases failed
      rfl
    | ok found =>
      rw [result] at failed
      cases failed
  obtain ⟨first, rest, fault, split, place, viable, again⟩ :=
    (settled_query origin tokens).fails error failed
  refine ⟨first, rest, fault, split, place, viable, ?_⟩
  rintro other same ⟨⟨phrase, nonnegative⟩, derives⟩
  have accepted := query_complete origin phrase nonnegative
  rw [show phrase.tokens = first ++ other from derives, query_eq, again other same] at accepted
  cases accepted

end Settles

end Parser

end DocQuery
