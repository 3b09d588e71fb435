/-
**Derivations do not depend on where their tokens stand.**

* `Move`: a change of tokens that keeps what they are. `Move.phrase` and `Move.query` carry a
  derivation over, with `tokens_phrase` and `tokens_query` for the tokens that it derives then;
* `alike_phrase`, `unplaced_query`: what a derivation stands for is the same but for places, if the
  paths in it still have the same names;
* `exists_move_of_pieces`: tokens can be moved to those of another text that are spelled alike;
* `Query.readWith_of_pieces`: texts with the same tokens in other places are read as the same
  query.
-/

import DocQuery.Proofs.Query.Acceptance
import DocQuery.Proofs.Query.Layout
import DocQuery.Proofs.Query.Points
import DocQuery.Proofs.Query.Writable

namespace DocQuery

/-! ### Moved tokens -/

/-- A change of tokens that keeps what they are. -/
structure Move where
  apply : Token → Token
  kind_apply : ∀ token, (apply token).kind = token.kind

/-- Tokens can be moved to others of the same kinds, if none of them occurs twice. -/
theorem exists_move {tokens others : List Token} (distinct : tokens.Nodup)
    (kinds : others.map Token.kind = tokens.map Token.kind) :
    ∃ move : Move, tokens.map move.apply = others := by
  induction tokens generalizing others with
  | nil =>
    rw [List.map_nil, List.map_eq_nil_iff] at kinds
    exact ⟨⟨id, fun _ => rfl⟩, kinds.symm⟩
  | cons token tokens ih =>
    obtain ⟨other, others, rfl⟩ : ∃ other more, others = other :: more := by
      cases others with
      | nil => cases kinds
      | cons other more => exact ⟨other, more, rfl⟩
    obtain ⟨sameFirst, sameMore⟩ := List.cons.inj kinds
    obtain ⟨absent, distinct⟩ := List.nodup_cons.mp distinct
    obtain ⟨move, rfl⟩ := ih distinct sameMore
    refine ⟨⟨fun found => if found = token then other else move.apply found, ?_⟩, ?_⟩
    · intro found
      by_cases first : found = token
      · simpa only [first, if_true] using sameFirst
      · simpa only [first, if_false] using move.kind_apply found
    · rw [List.map_cons, List.cons.injEq, List.map_inj_left]
      refine ⟨if_pos rfl, fun found member => if_neg ?_⟩
      rintro rfl
      exact absent member

namespace Move

open Grammar

variable (move : Move)

/-! ### Moved derivations -/

/-- A keyword whose token is moved. -/
def word {word : Keyword} (found : Word word) : Word word :=
  ⟨move.apply found.val, by
    rw [move.kind_apply]
    exact found.property⟩

/-- A symbol whose token is moved. -/
def mark {mark : Symbol} (found : Mark mark) : Mark mark :=
  ⟨move.apply found.val, by
    rw [move.kind_apply]
    exact found.property⟩

/-- A value whose token is moved. -/
def leaf {α : Type} {stands : TokenKind → α → Prop} (found : Leaf stands) : Leaf stands where
  token := move.apply found.token
  value := found.value
  fits := by
    rw [move.kind_apply]
    exact found.fits

/-- A point and a name whose tokens are moved. -/
def segment (found : Segment) : Segment where
  dot := move.mark found.dot
  name := move.apply found.name
  fits := by
    rw [move.kind_apply]
    exact found.fits

/-- A path whose tokens are moved. -/
def path (found : Path) : Path := ⟨move.leaf found.first, found.more.map move.segment⟩

/-- A phrase whose tokens are moved. -/
def phrase : {category : Category} → Phrase category → Phrase category
  | _, .joined first more => .joined (phrase first) (phrase more)
  | _, .finished => .finished
  | _, .further found next more => .further (move.word found) (phrase next) (phrase more)
  | _, .single inner => .single (phrase inner)
  | _, .compared left operator right => .compared (phrase left) (move.leaf operator) (phrase right)
  | _, .plain inner => .plain (phrase inner)
  | _, .between inner found lower joint upper =>
    .between (phrase inner) (move.word found) (phrase lower) (move.word joint) (phrase upper)
  | _, .positive inner => .positive (phrase inner)
  | _, .not found inner => .not (move.word found) (phrase inner)
  | _, .literal found => .literal (move.leaf found)
  | _, .parameter found => .parameter (move.leaf found)
  | _, .property found => .property (move.path found)
  | _, .call name opening given closing =>
    .call (move.leaf name) (move.mark opening) (phrase given) (move.mark closing)
  | _, .group opening inner closing =>
    .group (move.mark opening) (phrase inner) (move.mark closing)
  | _, .noArguments => .noArguments
  | _, .someArguments first more => .someArguments (phrase first) (phrase more)
  | _, .noFurtherArgument => .noFurtherArgument
  | _, .furtherArgument comma next more =>
    .furtherArgument (move.mark comma) (phrase next) (phrase more)

/-- Items with commas between them whose tokens are moved. -/
def separated {α : Type} (item : α → α) (items : Separated α) : Separated α where
  first := item items.first
  more := items.more.map fun next => (move.mark next.1, item next.2)

/-- A clause whose tokens are moved. -/
def clause {word : Keyword} {α : Type} (body : α → α) (found : Clause word α) : Clause word α :=
  found.map fun held => (move.word held.1, body held.2)

/-- A selection whose tokens are moved. -/
def selection : SelectPhrase → SelectPhrase
  | .all star => .all (move.mark star)
  | .paths listed => .paths (move.separated move.path listed)

/-- An alias whose tokens are moved. -/
def reference : AliasPhrase → AliasPhrase
  | .absent => .absent
  | .plain name => .plain (move.leaf name)
  | .marked found name => .marked (move.word found) (move.leaf name)

/-- A direction whose token is moved. -/
def direction : Direction → Direction
  | .unmarked => .unmarked
  | .ascending found => .ascending (move.word found)
  | .descending found => .descending (move.word found)

/-- A key whose tokens are moved. -/
def key (found : KeyPhrase) : KeyPhrase := ⟨move.path found.path, move.direction found.direction⟩

/-- An order whose tokens are moved. -/
def order (found : OrderPhrase) : OrderPhrase :=
  ⟨move.word found.word, move.separated move.key found.keys⟩

/-- A query whose tokens are moved. -/
def query (found : QueryPhrase) : QueryPhrase where
  select := move.word found.select
  top := move.clause move.leaf found.top
  selection := move.selection found.selection
  word := move.word found.word
  source := move.leaf found.source
  reference := move.reference found.reference
  condition := move.clause move.phrase found.condition
  order := move.clause move.order found.order
  limit := move.clause move.leaf found.limit

/-! ### Their tokens -/

theorem tokens_segments (segments : List Segment) :
    (segments.map move.segment).flatMap Segment.tokens =
      (segments.flatMap Segment.tokens).map move.apply := by
  induction segments with
  | nil => rfl
  | cons segment more ih =>
    rw [List.map_cons, List.flatMap_cons, ih, List.flatMap_cons, List.map_append]
    rfl

theorem tokens_path (found : Path) :
    (move.path found).tokens = found.tokens.map move.apply :=
  congrArg (move.apply found.first.token :: ·) (move.tokens_segments found.more)

theorem tokens_phrase {category : Category} (found : Phrase category) :
    (move.phrase found).tokens = found.tokens.map move.apply := by
  induction found with
  | property found => exact move.tokens_path found
  | _ => simp [phrase, Phrase.tokens, word, mark, leaf, *]

theorem tokens_separated {α : Type} {tokens : α → List Token} {item : α → α}
    (moved : ∀ found, tokens (item found) = (tokens found).map move.apply) (items : Separated α) :
    (move.separated item items).tokens tokens = (items.tokens tokens).map move.apply := by
  obtain ⟨first, more⟩ := items
  rw [separated, Separated.tokens, Separated.tokens, List.map_append, moved]
  congr 1
  induction more with
  | nil => rfl
  | cons next more ih =>
    rw [List.map_cons, List.flatMap_cons, ih, List.flatMap_cons, List.map_append, moved]
    rfl

theorem tokens_clause {word : Keyword} {α : Type} (tokens : α → List Token) {body : α → α}
    (moved : ∀ found, tokens (body found) = (tokens found).map move.apply)
    (found : Clause word α) :
    (move.clause body found).tokens tokens = (found.tokens tokens).map move.apply := by
  rcases found with _ | ⟨first, held⟩
  · rfl
  · exact congrArg (move.apply first.val :: ·) (moved held)

theorem tokens_selection (found : SelectPhrase) :
    (move.selection found).tokens = found.tokens.map move.apply := by
  cases found with
  | all star => rfl
  | paths listed => exact move.tokens_separated move.tokens_path listed

theorem tokens_reference (found : AliasPhrase) :
    (move.reference found).tokens = found.tokens.map move.apply := by
  cases found <;> rfl

theorem tokens_key (found : KeyPhrase) :
    (move.key found).tokens = found.tokens.map move.apply := by
  obtain ⟨path, direction⟩ := found
  rw [key, KeyPhrase.tokens, KeyPhrase.tokens, List.map_append, move.tokens_path]
  cases direction <;> rfl

theorem tokens_order (found : OrderPhrase) :
    (move.order found).tokens = found.tokens.map move.apply :=
  congrArg (move.apply found.word.val :: ·) (move.tokens_separated move.tokens_key found.keys)

theorem tokens_counts {word : Keyword} (held : Clause word (Leaf Counts)) :
    (move.clause move.leaf held).tokens countTokens = (held.tokens countTokens).map move.apply :=
  move.tokens_clause countTokens (fun _ => rfl) held

theorem tokens_opening (found : QueryPhrase) :
    (move.query found).openingTokens = found.openingTokens.map move.apply := by
  simp only [query, QueryPhrase.openingTokens, List.map_cons, List.map_append, move.tokens_counts,
    move.tokens_selection, move.tokens_reference]
  rfl

theorem tokens_ending (found : QueryPhrase) :
    (move.query found).endingTokens = found.endingTokens.map move.apply := by
  simp only [query, QueryPhrase.endingTokens, List.map_append, move.tokens_counts,
    move.tokens_clause OrderPhrase.tokens move.tokens_order]

theorem tokens_query (found : QueryPhrase) :
    (move.query found).tokens = found.tokens.map move.apply := by
  rw [QueryPhrase.tokens_eq, QueryPhrase.tokens_eq, List.map_append, List.map_append,
    move.tokens_opening, move.tokens_ending]
  congr 2
  exact move.tokens_clause Phrase.tokens move.tokens_phrase found.condition

end Move

/-! ### What they stand for -/

namespace Grammar

/-- Two values of the phrases of a category differ in places only. -/
def Category.Alike : (category : Category) → category.Value → category.Value → Prop
  | .level _, value, other => value.unplaced = other.unplaced
  | .further _, value, other => ∀ left left' : Expr, left.unplaced = left'.unplaced →
    (value left).unplaced = (other left').unplaced
  | .arguments, value, other | .moreArguments, value, other =>
    value.map Expr.unplaced = other.map Expr.unplaced

end Grammar

namespace Move

open Grammar

variable {move : Move} {origin origin' : Origin}

/-- What a condition stands for differs in places only, if its paths have the same names. -/
theorem alike_phrase {category : Category} (found : Phrase category)
    (named : ∀ path ∈ found.paths, (move.path path).value origin' = path.value origin) :
    category.Alike ((move.phrase found).value origin') (found.value origin) := by
  induction found with
  | finished => exact fun _ _ same => same
  | noArguments | noFurtherArgument | literal | parameter => rfl
  | property path => exact congrArg (Expr.property · .origin) (named path List.mem_cons_self)
  | single inner ih | plain inner ih | positive inner ih | group _ inner _ ih => exact ih named
  | not word inner ih => exact congrArg (Expr.unary .not · .origin) (ih named)
  | joined first more ihFirst ihMore =>
    obtain ⟨named, namedMore⟩ := List.forall_mem_append.mp named
    exact ihMore namedMore _ _ (ihFirst named)
  | @further junction word next more ihNext ihMore =>
    obtain ⟨named, namedMore⟩ := List.forall_mem_append.mp named
    intro left left' same
    refine ihMore namedMore _ _ ?_
    have next := ihNext named
    simp only [Category.Alike] at next
    simp only [Expr.unplaced, same, next]
  | compared left operator right ihLeft ihRight =>
    obtain ⟨named, namedRight⟩ := List.forall_mem_append.mp named
    have left := ihLeft named
    have right := ihRight namedRight
    simp only [Category.Alike] at left right ⊢
    simp only [phrase, Phrase.value, Expr.unplaced, left, right]
    rfl
  | between inner word lower joint upper ihInner ihLower ihUpper =>
    obtain ⟨named, others⟩ := List.forall_mem_append.mp named
    obtain ⟨namedLower, namedUpper⟩ := List.forall_mem_append.mp others
    have inner := ihInner named
    have lower := ihLower namedLower
    have upper := ihUpper namedUpper
    simp only [Category.Alike] at inner lower upper ⊢
    simp only [phrase, Phrase.value, Expr.unplaced, inner, lower, upper]
  | call name opening given closing ih =>
    have arguments := ih named
    simp only [Category.Alike] at arguments ⊢
    simp only [phrase, Phrase.value, Expr.unplaced, Expr.unplacedArguments_eq, arguments]
    rfl
  | someArguments first more ihFirst ihMore | furtherArgument _ first more ihFirst ihMore =>
    obtain ⟨named, namedMore⟩ := List.forall_mem_append.mp named
    have first := ihFirst named
    have more := ihMore namedMore
    simp only [Category.Alike] at first more ⊢
    simp only [phrase, Phrase.value, List.map_cons, first, more]

theorem items_separated {α : Type} (item : α → α) (items : Separated α) :
    (move.separated item items).items = items.items.map item := by
  simp [separated, Separated.items]

theorem countsNonnegative_query {found : QueryPhrase} (nonnegative : found.CountsNonnegative) :
    (move.query found).CountsNonnegative := by
  have moved {word : Keyword} {held : Clause word (Leaf Counts)}
      (each : ∀ clause ∈ held, 0 ≤ clause.2.value) :
      ∀ clause ∈ move.clause move.leaf held, 0 ≤ clause.2.value := by
    intro clause member
    obtain ⟨before, isBefore, rfl⟩ := Option.map_eq_some_iff.mp member
    exact each before isBefore
  exact ⟨moved nonnegative.1, moved nonnegative.2⟩

/-- **What a query stands for differs in places only**, if its paths have the same names. -/
theorem unplaced_query (found : QueryPhrase)
    (named : ∀ path ∈ found.paths, (move.path path).value origin' = path.value origin) :
    ((move.query found).value origin').unplaced = (found.value origin).unplaced := by
  obtain ⟨select, top, selection, word, source, reference, condition, order, limit⟩ := found
  simp only [QueryPhrase.paths, List.forall_mem_append] at named
  obtain ⟨namedSelection, namedCondition, namedOrder⟩ := named
  have counts {word : Keyword} (held : Clause word (Leaf Counts)) :
      (move.clause move.leaf held).map (fun clause => clause.2.value.toNat) =
        held.map fun clause => clause.2.value.toNat := by
    cases held <;> rfl
  have selected : (move.selection selection).value origin' = selection.value origin := by
    cases selection with
    | all star => rfl
    | paths listed =>
      refine congrArg Selection.paths ?_
      rw [items_separated, List.map_map, List.map_inj_left]
      exact namedSelection
  have referred : (move.reference reference).value = reference.value := by
    cases reference <;> rfl
  have conditions : ((move.clause move.phrase condition).map fun clause =>
        clause.2.value origin').map Expr.unplaced =
      (condition.map fun clause => clause.2.value origin).map Expr.unplaced := by
    rcases condition with _ | ⟨first, held⟩
    · rfl
    · exact congrArg some (alike_phrase held namedCondition)
  have orders : (move.clause move.order order).map (fun clause =>
        clause.2.keys.items.map (KeyPhrase.value origin')) =
      order.map fun clause => clause.2.keys.items.map (KeyPhrase.value origin) := by
    rcases order with _ | ⟨first, held⟩
    · rfl
    · refine congrArg some ?_
      show (move.separated move.key held.keys).items.map _ = _
      rw [items_separated, List.map_map, List.map_inj_left]
      intro key member
      have name := namedOrder key.path (List.mem_map_of_mem member)
      have descends : (move.direction key.direction).isDescending = key.direction.isDescending := by
        cases key.direction <;> rfl
      exact congrArg₂ OrderKey.mk name descends
  simp only [query, QueryPhrase.value, Query.unplaced, counts, selected, referred, conditions,
    orders]
  rfl

/-- A path has the same names if the tokens behind its points are spelled alike. -/
theorem value_path {found : Path} (spelled : ∀ segment ∈ found.more,
      Parser.segmentText origin' (move.apply segment.name) =
        Parser.segmentText origin segment.name) :
    (move.path found).value origin' = found.value origin := by
  refine congrArg (".".intercalate <| found.first.value :: ·) ?_
  show (found.more.map move.segment).map _ = _
  rw [List.map_map, List.map_inj_left]
  exact spelled

/-- **What a query stands for differs in places only**, if its tokens are spelled alike. -/
theorem unplaced_of_spelled {found : QueryPhrase} {text other : List Char} (stop stop' : Position)
    (spelled : ∀ token ∈ found.tokens, (move.apply token).piece other = token.piece text) :
    ((move.query found).value ⟨stop', some other⟩).unplaced =
      (found.value ⟨stop, some text⟩).unplaced := by
  refine unplaced_query found fun path isPath => value_path fun segment isSegment => ?_
  have inside := found.carries.mem_tokens path isPath _ (Path.name_mem isSegment)
  exact congrArg (fun piece => String.ofList piece.spelling) (spelled _ inside)

end Move

/-! ### Texts with the same tokens -/

/-- Tokens can be moved to those of another text that are spelled alike. -/
theorem exists_move_of_pieces {text other : List Char} {tokens others : List Token}
    (distinct : tokens.Nodup)
    (same : others.map (Token.piece other) = tokens.map (Token.piece text)) :
    ∃ move : Move, tokens.map move.apply = others ∧
      ∀ token ∈ tokens, (move.apply token).piece other = token.piece text := by
  have kinds : others.map Token.kind = tokens.map Token.kind := by
    have found := congrArg (List.map Piece.kind) same
    rwa [List.map_map, List.map_map] at found
  obtain ⟨move, rfl⟩ := exists_move distinct kinds
  rw [List.map_map, List.map_inj_left] at same
  exact ⟨move, rfl, same⟩

/-- **Texts with the same tokens in other places are read as the same query.** -/
theorem Query.readWith_of_pieces {text other : List Char} {query : Query}
    (accepted : readWith true text = .ok query) (same : pieces? other = pieces? text) :
    ∃ again, readWith true other = .ok again ∧ again.unplaced = query.unplaced := by
  obtain ⟨stop, phrase, scanned, nonnegative, rfl⟩ := readWith_eq_ok.mp accepted
  rw [scan_pieces scanned] at same
  obtain ⟨others, stop', scanned', pieces⟩ := exists_scan same
  obtain ⟨move, rfl, spelled⟩ :=
    exists_move_of_pieces (scanFrom_iff_laid.mp scanned).nodup_tokens pieces
  refine ⟨_, readWith_eq_ok.mpr ⟨stop', move.query phrase, ?_, ?_, rfl⟩, ?_⟩
  · rw [move.tokens_query]
    exact scanned'
  · exact Move.countsNonnegative_query nonnegative
  · exact Move.unplaced_of_spelled stop stop' spelled

end DocQuery
