/-
**Queries that are read without their text.**

The names behind points are taken from the text. Without it they are spelled as the values of their
tokens are shown, and a word that is a constant is shown as `True`, `False` or `None`.

* `segmentText_textless`: with and without the text the name is the same, unless it is such a word
  in another letter case;
* `QueryPhrase.same_iff`: with different texts a derivation stands for equal queries exactly if its
  paths have the same names;
* `Query.ofTokens_textless`: with and without the text the tokens are no query for the same reason,
  or they are equal queries exactly if each such word behind a point is spelled as it is shown.
-/

import DocQuery.Proofs.Operand.Comparison
import DocQuery.Proofs.Query.Lockstep
import DocQuery.Proofs.Query.Points
import DocQuery.Proofs.Query.Renaming

namespace DocQuery

/-! ### Names -/

/-- A token is one of the words that are constants. -/
def IsConstantWord : TokenKind → Prop
  | .boolean _ | .null => True
  | _ => False

/-- Some characters spell a truth value as it is shown. -/
def SpelledAsShown (spelling : List Char) : Prop :=
  spelling = "True".toList ∨ spelling = "False".toList

theorem ofWord_true : TokenKind.ofWord "True" = .boolean true := by decide +kernel

theorem ofWord_false : TokenKind.ofWord "False" = .boolean false := by decide +kernel

theorem ofWord_none : TokenKind.ofWord "None" = .identifier "None" := by decide +kernel

theorem ofList_eq_iff {spelling : List Char} {word : String} :
    String.ofList spelling = word ↔ spelling = word.toList := by
  rw [← String.toList_inj, String.toList_ofList]

open Grammar in
/-- **The name is the same without the text**, unless it is a constant that is spelled otherwise
than it is shown. -/
theorem segmentText_textless {text : List Char} {stop stop' : Position} {token : Token}
    (segment : IsSegment token.kind) (spelled : (token.piece text).WellSpelled) :
    Parser.segmentText ⟨stop, some text⟩ token = Parser.segmentText ⟨stop', none⟩ token ↔
      (IsConstantWord token.kind → SpelledAsShown (token.piece text).spelling) := by
  obtain ⟨kind, position, length⟩ := token
  show String.ofList (Token.piece text ⟨kind, position, length⟩).spelling = _ ↔ _
  obtain ⟨spelling, isSpelling⟩ : ∃ spelling,
      Token.piece text ⟨kind, position, length⟩ = ⟨kind, spelling⟩ := ⟨_, rfl⟩
  rw [isSpelling] at spelled ⊢
  cases segment with
  | identifier name =>
    have same : String.ofList spelling = name := eq_of_ofWord_identifier spelled.2
    exact ⟨fun _ constant => constant.elim, fun _ => same⟩
  | keyword word written =>
    have same : String.ofList spelling = written := eq_of_ofWord_keyword spelled.2
    exact ⟨fun _ constant => constant.elim, fun _ => same⟩
  | boolean value =>
    have isWord : TokenKind.ofWord (String.ofList spelling) = .boolean value := spelled.2
    constructor
    · rintro shown -
      cases value with
      | true => exact .inl (ofList_eq_iff.mp shown)
      | false => exact .inr (ofList_eq_iff.mp shown)
    · intro asShown
      rcases asShown trivial with rfl | rfl
      · rw [String.ofList_toList, ofWord_true] at isWord
        cases isWord
        exact String.ofList_toList
      · rw [String.ofList_toList, ofWord_false] at isWord
        cases isWord
        exact String.ofList_toList
  | null =>
    have isWord : TokenKind.ofWord (String.ofList spelling) = .null := spelled.2
    -- Null is shown as a word that is no constant.
    constructor
    · intro shown
      rw [show String.ofList spelling = "None" from shown, ofWord_none] at isWord
      cases isWord
    · intro asShown
      rcases asShown trivial with rfl | rfl
      · rw [String.ofList_toList, ofWord_true] at isWord
        cases isWord
      · rw [String.ofList_toList, ofWord_false] at isWord
        cases isWord

namespace Grammar

variable {text : List Char} {stop stop' : Position}

theorem dot_not_mem_segmentText {token : Token} (segment : IsSegment token.kind)
    (spelled : (token.piece text).WellSpelled) :
    '.' ∉ (Parser.segmentText ⟨stop, some text⟩ token).toList ∧
      '.' ∉ (Parser.segmentText ⟨stop', none⟩ token).toList := by
  have isName := @isName_of_isSegment (token.piece text) segment spelled
  have plain := Query.dot_not_mem_of_isName isName
  constructor
  · show '.' ∉ (String.ofList (token.piece text).spelling).toList
    rwa [String.toList_ofList]
  · obtain ⟨kind, position, length⟩ := token
    cases segment with
    | identifier name =>
      show '.' ∉ name.toList
      rwa [← eq_of_ofWord_identifier spelled.2, String.toList_ofList]
    | keyword word written =>
      show '.' ∉ written.toList
      rwa [← eq_of_ofWord_keyword spelled.2, String.toList_ofList]
    | boolean value =>
      show '.' ∉ (Json.shown (.bool value)).toList
      cases value <;> decide
    | null =>
      show '.' ∉ (Json.shown .null).toList
      decide

/-- **A path is the same without the text**, unless a constant in it is spelled otherwise than it is
shown. -/
theorem Path.value_textless {path : Path} (spelled : WellSpelled text path.tokens) :
    path.value ⟨stop, some text⟩ = path.value ⟨stop', none⟩ ↔
      ∀ segment ∈ path.more, IsConstantWord segment.name.kind →
        SpelledAsShown (segment.name.piece text).spelling := by
  have each : ∀ segment ∈ path.more, (segment.name.piece text).WellSpelled :=
    fun segment member => spelled _ (Path.name_mem member)
  have first : '.' ∉ path.first.value.toList :=
    Query.dot_not_mem_of_isName (isPlain_of_names path.first.fits spelled.head).1
  have names (origin : Origin)
      (plain : ∀ segment ∈ path.more, '.' ∉ (Parser.segmentText origin segment.name).toList) :
      pathSegments (path.value origin) = path.first.value ::
        path.more.map fun segment => Parser.segmentText origin segment.name := by
    refine pathSegments_intercalate (List.cons_ne_nil _ _) (List.forall_mem_cons.mpr ⟨first, ?_⟩)
    simpa only [List.forall_mem_map] using plain
  have plain := fun segment member =>
    @dot_not_mem_segmentText text stop stop' _ segment.fits (each segment member)
  trans ∀ segment ∈ path.more, Parser.segmentText ⟨stop, some text⟩ segment.name =
    Parser.segmentText ⟨stop', none⟩ segment.name
  · rw [← List.map_inj_left]
    constructor
    · intro same
      have split := congrArg pathSegments same
      rw [names _ fun segment member => (plain segment member).1,
        names _ fun segment member => (plain segment member).2] at split
      exact (List.cons.inj split).2
    · exact fun same => congrArg (fun more => ".".intercalate (path.first.value :: more)) same
  · exact forall₂_congr fun segment member =>
      segmentText_textless segment.fits (each segment member)

/-! ### Equal values of a derivation -/

/-- Two values of the phrases of a category are equal exactly under a condition. -/
def Category.SameIff (condition : Prop) :
    (category : Category) → category.Value → category.Value → Prop
  | .level _, value, other => value.same other ↔ condition
  | .further _, join, other => ∀ left left' : Expr,
    (join left).same (other left') ↔ left.same left' ∧ condition
  | .arguments, given, other | .moreArguments, given, other =>
    Expr.sameArguments given other ↔ condition

/-- A constant is equal to itself, since none is undefined. -/
theorem same_self_of_isLiteral {value : Json} (literal : IsLiteral value) : value.same value := by
  cases value with
  | null => rfl
  | bool verdict => exact beq_self_eq_true verdict
  | int number => exact beq_self_eq_true number
  | float number => exact Bool.or_eq_true_iff.mpr (.inl (Binary64.same_self literal))
  | string written => exact beq_self_eq_true written
  | array | object => exact literal.elim

variable {origin origin' : Origin}

/-- What a condition stands for with two texts is equal exactly if its paths are. -/
theorem Phrase.same_iff {category : Category} (phrase : Phrase category)
    (spelled : WellSpelled text phrase.tokens) :
    category.SameIff (∀ path ∈ phrase.paths, path.value origin = path.value origin')
      (phrase.value origin) (phrase.value origin') := by
  induction phrase with
  | finished => simp [Category.SameIff, Phrase.value, Phrase.paths]
  | noArguments | noFurtherArgument | parameter =>
    simp [Category.SameIff, Phrase.value, Phrase.paths, Expr.same, Expr.sameArguments]
  | literal leaf =>
    have same := same_self_of_isLiteral (isLiteral_of_denotes leaf.fits spelled.head)
    simp [Category.SameIff, Phrase.value, Phrase.paths, Expr.same, Operand.same, same]
  | property path => simp [Category.SameIff, Phrase.value, Phrase.paths, Expr.same]
  | single inner ih | plain inner ih | positive inner ih => exact ih spelled
  | group opening inner closing ih => exact ih spelled.tail.left
  | not word inner ih =>
    have inner := ih spelled.tail
    simp only [Category.SameIff] at inner ⊢
    simp [Phrase.value, Phrase.paths, Expr.same, inner]
  | joined first more ihFirst ihMore =>
    have first := ihFirst spelled.left
    have more := ihMore spelled.right
    simp only [Category.SameIff] at first more ⊢
    simp [Phrase.value, Phrase.paths, first, more, or_imp, forall_and]
  | further word next more ihNext ihMore =>
    have next := ihNext spelled.tail.left
    have more := ihMore spelled.tail.right
    simp only [Category.SameIff] at next more ⊢
    simp [Phrase.value, Phrase.paths, Expr.same, next, more, or_imp, forall_and, and_assoc]
  | compared left operator right ihLeft ihRight =>
    have left := ihLeft spelled.left
    have right := ihRight spelled.right.tail
    simp only [Category.SameIff] at left right ⊢
    simp [Phrase.value, Phrase.paths, Expr.same, left, right, or_imp, forall_and]
  | between inner word lower joint upper ihInner ihLower ihUpper =>
    have inner := ihInner spelled.left
    have lower := ihLower spelled.right.tail.left
    have upper := ihUpper spelled.right.tail.right.tail
    simp only [Category.SameIff] at inner lower upper ⊢
    simp [Phrase.value, Phrase.paths, Expr.same, inner, lower, upper, or_imp, forall_and, and_assoc]
  | call name opening given closing ih =>
    have given := ih spelled.tail.tail.left
    simp only [Category.SameIff] at given ⊢
    simp [Phrase.value, Phrase.paths, Expr.same, given]
  | someArguments first more ihFirst ihMore =>
    have first := ihFirst spelled.left
    have more := ihMore spelled.right
    simp only [Category.SameIff] at first more ⊢
    simp [Phrase.value, Phrase.paths, Expr.sameArguments, first, more, or_imp, forall_and]
  | furtherArgument comma next more ihNext ihMore =>
    have next := ihNext spelled.tail.left
    have more := ihMore spelled.tail.right
    simp only [Category.SameIff] at next more ⊢
    simp [Phrase.value, Phrase.paths, Expr.sameArguments, next, more, or_imp, forall_and]

/-- **What a query stands for with two texts is equal exactly if its paths are.** -/
theorem QueryPhrase.same_iff {phrase : QueryPhrase} (spelled : WellSpelled text phrase.tokens) :
    (phrase.value origin).same (phrase.value origin') ↔
      ∀ path ∈ phrase.paths, path.value origin = path.value origin' := by
  have isCondition := Clause.spelled spelled.tail.right.right.tail.tail.right.left
  obtain ⟨select, top, selection, word, source, reference, condition, order, limit⟩ := phrase
  have selections : selection.value origin = selection.value origin' ↔
      ∀ path ∈ selection.selected, path.value origin = path.value origin' := by
    cases selection with
    | all star => simp [SelectPhrase.value, SelectPhrase.selected]
    | paths listed => simp [SelectPhrase.value, SelectPhrase.selected]
  have orders : (order.map fun clause => clause.2.keys.items.map (KeyPhrase.value origin)) =
        (order.map fun clause => clause.2.keys.items.map (KeyPhrase.value origin')) ↔
      ∀ path ∈ order.paths OrderPhrase.paths, path.value origin = path.value origin' := by
    rcases order with _ | ⟨first, held⟩
    · simp [Clause.paths]
    · simp [Clause.paths, OrderPhrase.paths, KeyPhrase.value]
  simp only [QueryPhrase.value, Query.same, QueryPhrase.paths, Bool.and_eq_true, beq_iff_eq,
    List.forall_mem_append, selections, orders, beq_self_eq_true, and_true, and_assoc]
  refine and_congr_right fun _ => and_congr_left fun _ => ?_
  rcases condition with _ | ⟨first, held⟩
  · simp [Clause.paths]
  · exact held.same_iff (isCondition _ rfl)

end Grammar

/-! ### Queries -/

/-- Behind the points among some tokens each constant is spelled as it is shown. -/
def ConstantsAsShown (text : List Char) (tokens : List Token) : Prop :=
  ∀ point name front behind, tokens = front ++ point :: name :: behind →
    Grammar.IsSymbol .dot point.kind → IsConstantWord name.kind →
      SpelledAsShown (name.piece text).spelling

namespace Query

/-- **With and without the text the tokens of a text are read alike.** They are no query for the
same reason and at the same place, or they are two queries, which are equal exactly if behind each
point a word that is `true`, `false` or `null` in some letter case is spelled `True` or `False`. -/
theorem ofTokens_textless {text : List Char} {tokens : List Token} {stop : Position}
    (scanned : scan text = .ok (tokens, stop)) :
    (∃ error error', ofTokens tokens stop (some text) = .error error ∧
      ofTokens tokens stop none = .error error' ∧ error.position = error'.position ∧
      error.reason = error'.reason ∧ error.suggestion = error'.suggestion) ∨
    ∃ query query', ofTokens tokens stop (some text) = .ok query ∧
      ofTokens tokens stop none = .ok query' ∧
      (query.same query' ↔ ConstantsAsShown text tokens) := by
  cases parsed : Parser.query ⟨stop, some text⟩ tokens with
  | error failure =>
    have parsed' := @Parser.query_fails_alike stop (some text) none tokens failure parsed
    refine .inl ⟨.grammar failure (some (text.drop failure.position.offset)),
      .grammar failure none, ?_, ?_, rfl, rfl, rfl⟩
    · rw [ofTokens, parsed]
      rfl
    · rw [ofTokens, parsed']
      rfl
  | ok query =>
    obtain ⟨phrase, rfl, nonnegative, rfl⟩ := Parser.query_sound parsed
    have spelled : WellSpelled text phrase.tokens := fun token member =>
      pieces?_wellSpelled (scan_pieces scanned) _ (List.mem_map_of_mem member)
    refine .inr ⟨_, _, ofTokens_eq_ok.mpr ⟨phrase, rfl, nonnegative, rfl⟩,
      ofTokens_eq_ok.mpr ⟨phrase, rfl, nonnegative, rfl⟩, ?_⟩
    rw [Grammar.QueryPhrase.same_iff spelled]
    trans ∀ path ∈ phrase.paths, ∀ segment ∈ path.more, IsConstantWord segment.name.kind →
      SpelledAsShown (segment.name.piece text).spelling
    · refine forall₂_congr fun path member => Grammar.Path.value_textless fun token inside => ?_
      exact spelled token (phrase.carries.mem_tokens path member token inside)
    · rw [phrase.carries.forall_segments_iff fun name => IsConstantWord name.kind →
        SpelledAsShown (name.piece text).spelling, List.isChain_iff_forall_rel_of_append_cons_cons]
      rfl

/-- A truth value that is spelled as it is shown, and null, which never is. -/
theorem ofTokens_textless_null : ∃ tokens stop query query',
    scan "SELECT c.True, c.null FROM c".toList = .ok (tokens, stop) ∧
      ofTokens tokens stop (some "SELECT c.True, c.null FROM c".toList) = .ok query ∧
      ofTokens tokens stop none = .ok query' ∧ query.same query' = false ∧
      ¬ ConstantsAsShown "SELECT c.True, c.null FROM c".toList tokens := by
  obtain ⟨⟨tokens, stop⟩, scanned, holds⟩ := exists_of_any
    (show (scan "SELECT c.True, c.null FROM c".toList).toOption.any (fun found =>
        (ofTokens found.1 found.2 (some "SELECT c.True, c.null FROM c".toList)).toOption.any
          fun query => (ofTokens found.1 found.2 none).toOption.any
            fun query' => query.same query' == false) by
      decide +kernel)
  obtain ⟨query, isQuery, holds⟩ := exists_of_any holds
  obtain ⟨query', isQuery', holds⟩ := exists_of_any holds
  have differ := eq_of_beq holds
  refine ⟨tokens, stop, query, query', scanned, isQuery, isQuery', differ, fun asShown => ?_⟩
  rcases ofTokens_textless scanned with ⟨error, -, refused, -⟩ | ⟨found, found', same, same', equal⟩
  · rw [isQuery] at refused
    cases refused
  · rw [isQuery] at same
    rw [isQuery'] at same'
    cases same
    cases same'
    rw [equal.mpr asShown] at differ
    cases differ

end Query

end DocQuery
