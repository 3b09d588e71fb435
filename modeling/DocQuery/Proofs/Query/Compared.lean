/-
**A condition of a text, compared with a truth value.**

In front of a condition, and behind it, tokens may be put into the text: what is there still ends
where it did, since parentheses separate tokens.

* `Laid.exists_cut`: a text can be cut in front of each of its tokens, or at the end;
* `Laid.exists_enclosed`: some of its tokens can be enclosed in others;
* `Expr.is`, `Phrase.is`: a condition that is compared with a truth value, and its derivation;
* `Query.read_is`: a text with a condition is read, if the condition is compared so in the text, as
  the query with the condition that is compared so.
-/

import DocQuery.Proofs.Query.Spacing

namespace DocQuery

open Grammar

/-! ### Cuts -/

namespace Laid

/-- **A text can be cut in front of each of its tokens.** What stands in front of the cut is read as
the same tokens if the characters behind it stay, or a separation is put there. The induction is on
the layout up to the cut. -/
theorem exists_cut {here : List Char} {start stop : Position} {tokens : List Token}
    (laid : Laid here start tokens stop)
    (names : tokens.IsChain fun token next => IsSymbol .dot next.kind → IsSegment token.kind)
    {first second : List Token} (split : tokens = first ++ second) :
    ∃ front back pieces, here = front ++ back ∧ pieces.length = first.length ∧
      Reads (fun rest => rest = back ∨ Separates rest) front pieces ∧
      Laid back (start.after front) second stop := by
  induction laid generalizing first with
  | done start =>
    obtain ⟨rfl, rfl⟩ := List.append_eq_nil_iff.mp split.symm
    exact ⟨[], [], [], rfl, rfl, Reads.nil, .done start⟩
  | @blank c rest start stop tokens blank behind ih =>
    obtain ⟨front, back, pieces, rfl, length, reads, laid⟩ := ih names split
    refine ⟨c :: front, back, pieces, rfl, length, fun rest fits => ?_, laid⟩
    rw [List.cons_append, pieces?_blank blank, reads rest fits]
  | @token kind spelling rest start stop tokens token ends behind ih =>
    by_cases none : first = []
    · subst none split
      exact ⟨[], _, [], rfl, rfl, Reads.nil, .token token ends behind⟩
    obtain ⟨_, first, rfl⟩ := List.exists_cons_of_ne_nil none
    obtain ⟨rfl, rfl⟩ := List.cons.inj split
    rw [List.isChain_cons] at names
    obtain ⟨front, back, pieces, rfl, length, reads, laid⟩ := ih names.2 rfl
    have noPoint : front = ['.'] → ∀ value, kind ≠ .integer value := by
      rintro rfl value rfl
      obtain ⟨point, isNext, dot⟩ := behind.exists_point rfl
      cases names.1 point isNext dot
    have own : Reads (fun rest => rest = back ∨ Separates rest) (spelling ++ front)
        ([⟨kind, spelling⟩] ++ pieces) := by
      refine token.reads.append reads fun rest fits => ?_
      rcases fits with rfl | separates
      · exact ends
      · exact ends.respaced separates noPoint
    refine ⟨spelling ++ front, back, _, (List.append_assoc _ _ _).symm, ?_, own, ?_⟩
    · rw [List.length_append, List.length_singleton, length, List.length_cons, Nat.add_comm]
    · rwa [Position.after_append]

/-- **Some tokens of a text can be enclosed in others** that separate them from those in front and
behind. -/
theorem exists_enclosed {text : List Char} {stop : Position} {before inside behind : List Token}
    (laid : Laid text .origin (before ++ (inside ++ behind)) stop)
    (names : (before ++ (inside ++ behind)).IsChain fun token next =>
      IsSymbol .dot next.kind → IsSegment token.kind) :
    ∃ front middle back, text = front ++ (middle ++ back) ∧
      ∀ {opening closing : List Char} {pieces pieces' : List Piece},
        Reads Anything opening pieces → Reads Anything closing pieces' →
        (∀ rest, Separates (opening ++ rest)) → (∀ rest, Separates (closing ++ rest)) →
        pieces? (front ++ (opening ++ (middle ++ (closing ++ back)))) =
          some (before.map (Token.piece text) ++ (pieces ++ (inside.map (Token.piece text) ++
            (pieces' ++ behind.map (Token.piece text))))) := by
  obtain ⟨front, rest, first, rfl, firstLength, readsFirst, laidRest⟩ := laid.exists_cut names rfl
  obtain ⟨middle, back, second, rfl, secondLength, readsSecond, laidBack⟩ :=
    laidRest.exists_cut (List.isChain_append.mp names).2.1 rfl
  obtain ⟨third, readThird⟩ := exists_pieces (scanFrom_iff_laid.mpr laidBack)
  -- The pieces on both sides of the cuts are those of the text.
  have own : first ++ (second ++ third) = before.map (Token.piece (front ++ (middle ++ back))) ++
      (inside.map (Token.piece (front ++ (middle ++ back))) ++
        behind.map (Token.piece (front ++ (middle ++ back)))) := by
    have read := scan_pieces (scanFrom_iff_laid.mpr laid)
    rw [readsFirst _ (.inl rfl), readsSecond _ (.inl rfl), readThird] at read
    simpa only [List.map_append] using Option.some.inj read
  obtain ⟨isFirst, others⟩ := List.append_inj own (by rw [firstLength, List.length_map])
  obtain ⟨isSecond, isThird⟩ := List.append_inj others (by rw [secondLength, List.length_map])
  refine ⟨front, middle, back, rfl, fun opens closes separates separates' => ?_⟩
  rw [readsFirst _ (.inr (separates _)), opens _ trivial, readsSecond _ (.inr (separates' _)),
    closes _ trivial, readThird, isFirst, isSecond, isThird]
  rfl

end Laid

/-! ### Comparisons with a truth value -/

/-- A condition that is compared with a truth value. -/
def Expr.is (condition : Expr) (truth : Bool) (sign literal : Position) : Expr :=
  .binary condition .equal (.constant (.json (.bool truth)) literal) sign

namespace Grammar

/-- The derivation of a condition in parentheses that is compared with a literal. -/
def Phrase.is (condition : Phrase (.level (.joined .or))) (opening : Mark .leftParen)
    (closing : Mark .rightParen) (sign : Leaf Compares) (literal : Leaf Denotes) :
    Phrase (.level (.joined .or)) :=
  let left : Phrase (.level .ranged) := .plain (.positive (.group opening condition closing))
  let right : Phrase (.level .ranged) := .plain (.positive (.literal literal))
  .joined (.joined (.compared left sign right) .finished) .finished

section

variable (condition : Phrase (.level (.joined .or))) (opening : Mark .leftParen)
  (closing : Mark .rightParen) (sign : Leaf Compares) (literal : Leaf Denotes)

theorem Phrase.tokens_is : (condition.is opening closing sign literal).tokens =
    opening.val :: (condition.tokens ++ [closing.val, sign.token, literal.token]) := by
  simp [Phrase.is, Phrase.tokens]

/-- So a condition is written that is compared with a truth value. -/
theorem Phrase.value_is (origin : Origin) {truth : Bool} (isEqual : sign.value = .equal)
    (isTruth : literal.value = .bool truth) :
    (condition.is opening closing sign literal).value origin =
      (condition.value origin).is truth sign.token.position literal.token.position := by
  simp only [Phrase.is, Phrase.value, isEqual, isTruth]
  rfl

end

end Grammar

/-! ### Their texts -/

/-- A text whose middle is in parentheses and compared with a truth value. -/
def comparedText (front middle back : List Char) (truth : Bool) : List Char :=
  front ++ ('(' :: (middle ++ (')' :: ((" = " ++ toString truth ++ " ").toList ++ back))))

example : String.ofList (comparedText "SELECT * FROM c WHERE ".toList "NOT c.a ".toList
    "LIMIT 1".toList true) = "SELECT * FROM c WHERE (NOT c.a ) = true LIMIT 1" := by
  decide +kernel

/-- A token with a blank behind it is read wherever it stands. -/
theorem IsToken.reads_spaced {kind : TokenKind} {spelling : List Char}
    (token : IsToken kind spelling) : Reads Anything (spelling ++ [' ']) [⟨kind, spelling⟩] :=
  token.reads.append reads_blank fun rest _ => separates_blank rfl rest _

/-- A comparison with a truth value is read behind a closing parenthesis. -/
theorem reads_truth (truth : Bool) :
    Reads Anything (')' :: (" = " ++ toString truth ++ " ").toList)
      [⟨.symbol .rightParen ")", [')']⟩, ⟨.symbol .equal "=", ['=']⟩,
        ⟨.boolean truth, (toString truth).toList⟩] := by
  have sign : IsToken (.symbol .equal "=") ['='] := .symbol (by decide)
  have literal : IsToken (.boolean truth) (toString truth).toList := by
    cases truth with
    | true => exact .word (show IsName "true".toList by decide +kernel)
    | false => exact .word (show IsName "false".toList by decide +kernel)
  have reads := (reads_closing.append reads_blank fun _ _ => trivial).append
    (sign.reads_spaced.append literal.reads_spaced fun _ _ => trivial) fun _ _ => trivial
  cases truth <;> exact reads

/-- The tokens of a text, of which those inside are in parentheses and compared in another text. -/
structure ScansCompared (text other : List Char) (before inside behind : List Token) (truth : Bool)
    where
  move : Move
  opening : Mark .leftParen
  closing : Mark .rightParen
  sign : Leaf Compares
  literal : Leaf Denotes
  stop : Position
  scanned : scan other = .ok (before.map move.apply ++ (opening.val :: (inside.map move.apply ++
    (closing.val :: sign.token :: literal.token :: behind.map move.apply))), stop)
  isEqual : sign.value = .equal
  isTruth : literal.value = .bool truth
  spelled : ∀ token ∈ before ++ (inside ++ behind),
    (move.apply token).piece other = token.piece text

/-- **The tokens inside can be compared** with a truth value in the text. -/
theorem Laid.exists_compared {text : List Char} {before inside behind : List Token}
    {stop : Position} (laid : Laid text .origin (before ++ (inside ++ behind)) stop)
    (names : (before ++ (inside ++ behind)).IsChain fun token next =>
      IsSymbol .dot next.kind → IsSegment token.kind) :
    ∃ front middle back, text = front ++ (middle ++ back) ∧ ∀ truth,
      Nonempty (ScansCompared text (comparedText front middle back truth) before inside behind
        truth) := by
  obtain ⟨front, middle, back, rfl, reads⟩ := laid.exists_enclosed names
  refine ⟨front, middle, back, rfl, fun truth => ?_⟩
  have separates (c : Char) (delimits : c = '(' ∨ c = ')') (rest : List Char) :
      Separates (c :: rest) := by
    rcases delimits with rfl | rfl <;>
      exact separates_cons (by decide +kernel) (by decide) (by decide) (by decide) rest
  obtain ⟨others, stop', scanned, pieces⟩ := exists_scan (reads reads_opening (reads_truth truth)
    (fun _ => separates _ (.inl rfl) _) fun _ => separates _ (.inr rfl) _)
  simp only [List.map_eq_append_iff, List.cons_append, List.nil_append,
    List.map_eq_cons_iff] at pieces
  obtain ⟨before', _, rfl, isBefore, opening, _, rfl, isOpening, inside', _, rfl, isInside, closing,
    _, rfl, isClosing, sign, _, rfl, isSign, literal, behind', rfl, isLiteral, isBehind⟩ := pieces
  have own : (before' ++ (inside' ++ behind')).map (Token.piece
      (comparedText front middle back truth)) =
      (before ++ (inside ++ behind)).map (Token.piece (front ++ (middle ++ back))) := by
    simp only [List.map_append, ← isBefore, ← isInside, ← isBehind]
    rfl
  obtain ⟨move, moved, spelled⟩ := exists_move_of_pieces laid.nodup_tokens own
  rw [List.map_append, List.map_append] at moved
  have lengthBefore := congrArg List.length isBefore
  have lengthInside := congrArg List.length isInside
  rw [List.length_map, List.length_map] at lengthBefore lengthInside
  obtain ⟨first, others⟩ := List.append_inj moved ((List.length_map _).trans lengthBefore.symm)
  obtain ⟨second, third⟩ := List.append_inj others ((List.length_map _).trans lengthInside.symm)
  rw [← first, ← second, ← third] at scanned
  have isTruth : literal.kind = .boolean truth := congrArg Piece.kind isLiteral
  have isEqual : sign.kind = .symbol .equal "=" := congrArg Piece.kind isSign
  exact ⟨{
    move := move
    opening := ⟨opening, _, congrArg Piece.kind isOpening⟩
    closing := ⟨closing, _, congrArg Piece.kind isClosing⟩
    sign := ⟨sign, .equal, isEqual ▸ .equal "="⟩
    literal := ⟨literal, .bool truth, isTruth ▸ .boolean truth⟩
    stop := stop'
    scanned := scanned
    isEqual := rfl
    isTruth := rfl
    spelled := spelled }⟩

namespace Grammar.QueryPhrase

/-- A query with another condition. -/
def withCondition (phrase : QueryPhrase) (word : Word .where)
    (condition : Phrase (.level (.joined .or))) : QueryPhrase :=
  { phrase with condition := some (word, condition) }

theorem tokens_withCondition (phrase : QueryPhrase) (word : Word .where)
    (condition : Phrase (.level (.joined .or))) :
    (phrase.withCondition word condition).tokens =
      phrase.openingTokens ++ [word.val] ++ (condition.tokens ++ phrase.endingTokens) := by
  rw [tokens_eq, List.append_assoc]
  rfl

theorem withCondition_eq {phrase : QueryPhrase} {word : Word .where}
    {condition : Phrase (.level (.joined .or))}
    (asked : phrase.condition = some (word, condition)) :
    phrase.withCondition word condition = phrase := by
  rw [withCondition, ← asked]

end Grammar.QueryPhrase

/-- What a query stands for with its condition compared differs in places only, wherever its tokens
are moved. -/
theorem Move.unplaced_is {move : Move} {origin origin' : Origin} {phrase : QueryPhrase}
    (same : ((move.query phrase).value origin').unplaced = (phrase.value origin).unplaced)
    {word : Word .where} {condition : Phrase (.level (.joined .or))}
    (asked : phrase.condition = some (word, condition))
    {opening : Mark .leftParen} {closing : Mark .rightParen} {sign : Leaf Compares}
    {literal : Leaf Denotes} {truth : Bool} (isEqual : sign.value = .equal)
    (isTruth : literal.value = .bool truth) :
    (((move.query phrase).withCondition (move.word word)
      ((move.phrase condition).is opening closing sign literal)).value origin').unplaced =
      { phrase.value origin with
        condition := some ((condition.value origin).is truth .origin .origin) }.unplaced := by
  have compared : (((move.phrase condition).value origin').is truth sign.token.position
      literal.token.position).unplaced =
      ((condition.value origin).is truth .origin .origin).unplaced := by
    have conditions := congrArg Query.condition same
    simp only [Query.unplaced, QueryPhrase.value, Move.query, Move.clause, asked, Option.map_some,
      Option.some.injEq] at conditions
    simp only [Expr.is, Expr.unplaced, conditions]
  rw [← Phrase.value_is (move.phrase condition) opening closing sign literal origin' isEqual
    isTruth] at compared
  exact congrArg₂ (fun (query : Query) expr => { query with condition := some expr }) same compared

namespace Query

theorem readWith_is {text : List Char} {query : Query} {condition : Expr}
    (accepted : readWith true text = .ok query) (asked : query.condition = some condition) :
    ∃ front middle back, text = front ++ (middle ++ back) ∧ ∀ truth, ∃ other,
      readWith true (comparedText front middle back truth) = .ok other ∧
      other.unplaced =
        { query with condition := some (condition.is truth .origin .origin) }.unplaced := by
  obtain ⟨stop, phrase, scanned, nonnegative, rfl⟩ := readWith_eq_ok.mp accepted
  obtain ⟨⟨word, held⟩, isHeld, rfl⟩ := Option.map_eq_some_iff.mp asked
  have split := phrase.tokens_withCondition word held
  rw [QueryPhrase.withCondition_eq isHeld] at split
  have laid := scanFrom_iff_laid.mp scanned
  have names := phrase.carries.behind_names
  rw [split] at laid names
  obtain ⟨front, middle, back, rfl, compared⟩ := laid.exists_compared names
  refine ⟨front, middle, back, rfl, fun truth => ?_⟩
  obtain ⟨found⟩ := compared truth
  have spelled := found.spelled
  rw [← split] at spelled
  refine ⟨_, readWith_eq_ok.mpr ⟨found.stop, (found.move.query phrase).withCondition
    (found.move.word word) ((found.move.phrase held).is found.opening found.closing found.sign
      found.literal), ?_, Move.countsNonnegative_query nonnegative, rfl⟩, ?_⟩
  · have scanned' := found.scanned
    rw [QueryPhrase.tokens_withCondition, Phrase.tokens_is, found.move.tokens_opening,
      found.move.tokens_ending, found.move.tokens_phrase]
    simpa [Move.word] using scanned'
  · exact Move.unplaced_is (Move.unplaced_of_spelled stop found.stop spelled) isHeld found.isEqual
      found.isTruth

/-- **A condition is compared with a truth value in its text.** Two places of the text can be
chosen so that, with its middle in parentheses and compared, it is read as the query with the
condition that is compared, but for places. -/
theorem read_is {text : String} {query : Query} {condition : Expr}
    (accepted : read text = .ok query) (asked : query.condition = some condition) :
    ∃ front middle back, text.toList = front ++ (middle ++ back) ∧ ∀ truth, ∃ other,
      read (String.ofList (comparedText front middle back truth)) = .ok other ∧
      other.unplaced =
        { query with condition := some (condition.is truth .origin .origin) }.unplaced := by
  obtain ⟨front, middle, back, split, compared⟩ := readWith_is (read_eq_ok.mp accepted) asked
  refine ⟨front, middle, back, split, fun truth => ?_⟩
  obtain ⟨other, isOther, same⟩ := compared truth
  refine ⟨other, ?_, same⟩
  rwa [read_eq_ok, String.toList_ofList]

end Query

end DocQuery
