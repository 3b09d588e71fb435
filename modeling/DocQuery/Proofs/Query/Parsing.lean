/-
**The parser accepts exactly the grammar.**
-/

import DocQuery.Proofs.Query.Unambiguity
import DocQuery.Query.Read

namespace DocQuery

namespace Parser

open Grammar

/-! ### Tokens -/

theorem forget_eq_ok {α : Type} {here rest : List Token} {step : Step α here} {value : α} :
    forget step = .ok (value, rest) ↔ ∃ shorter, step = .ok (value, ⟨rest, shorter⟩) := by
  rcases step with failure | ⟨found, behind, shorter⟩
  · simp [forget]
  · simp only [forget, Except.ok.injEq, Prod.mk.injEq, Subtype.mk.injEq]
    constructor
    · rintro ⟨rfl, rfl⟩
      exact ⟨shorter, rfl, rfl⟩
    · rintro ⟨-, rfl, rfl⟩
      exact ⟨rfl, rfl⟩

theorem symbol?_cons {mark : Symbol} {token : Token} {rest : List Token}
    (isMark : IsSymbol mark token.kind) :
    symbol? mark (token :: rest) = some ⟨rest, Nat.lt_succ_self _⟩ := by
  obtain ⟨spelling, kind⟩ := isMark
  simp [symbol?, kind]

theorem symbol?_eq_none {mark : Symbol} {here : List Token}
    (absent : ∀ token ∈ here.head?, ¬ IsSymbol mark token.kind) : symbol? mark here = none := by
  cases here with
  | nil => rfl
  | cons token rest =>
    have other := absent token rfl
    simp only [symbol?]
    split
    · next found spelling kind =>
      exact if_neg fun same : found = mark => other ⟨spelling, same ▸ kind⟩
    · rfl

theorem exists_of_symbol? {mark : Symbol} {here : List Token} {rest : Rest here}
    (found : symbol? mark here = some rest) :
    ∃ token : Mark mark, here = token.val :: rest.val := by
  cases here with
  | nil => cases found
  | cons token behind =>
    simp only [symbol?] at found
    split at found
    · next other spelling kind =>
      split at found
      · next same =>
        cases found
        exact ⟨⟨token, spelling, same ▸ kind⟩, rfl⟩
      · cases found
    · cases found

theorem keyword?_cons {word : Keyword} {token : Token} {rest : List Token}
    (isWord : IsKeyword word token.kind) :
    keyword? word (token :: rest) = some (token.position, ⟨rest, Nat.lt_succ_self _⟩) := by
  obtain ⟨spelling, kind⟩ := isWord
  simp [keyword?, kind]

theorem keyword?_eq_none {word : Keyword} {here : List Token}
    (absent : ∀ token ∈ here.head?, ¬ IsKeyword word token.kind) : keyword? word here = none := by
  cases here with
  | nil => rfl
  | cons token rest =>
    have other := absent token rfl
    simp only [keyword?]
    split
    · next found spelling kind =>
      exact if_neg fun same : found = word => other ⟨spelling, same ▸ kind⟩
    · rfl

theorem exists_of_keyword? {word : Keyword} {here : List Token} {position : Position}
    {rest : Rest here} (found : keyword? word here = some (position, rest)) :
    ∃ token : Word word, here = token.val :: rest.val ∧ position = token.val.position := by
  cases here with
  | nil => cases found
  | cons token behind =>
    simp only [keyword?] at found
    split at found
    · next other spelling kind =>
      split at found
      · next same =>
        cases found
        exact ⟨⟨token, spelling, same ▸ kind⟩, rfl, rfl⟩
      · cases found
    · cases found

theorem name?_cons {name : Leaf Names} {rest : List Token} :
    name? (name.token :: rest) =
      some (name.value, name.token.position, ⟨rest, Nat.lt_succ_self _⟩) := by
  obtain ⟨token, value, fits⟩ := name
  have kind : token.kind = .identifier value := by
    cases found : token.kind <;> rw [found] at fits <;> cases fits
    rfl
  simp [name?, kind]

theorem exists_of_name? {here : List Token} {name : String} {position : Position}
    {rest : Rest here} (found : name? here = some (name, position, rest)) :
    ∃ leaf : Leaf Names, here = leaf.token :: rest.val ∧ leaf.value = name ∧
      leaf.token.position = position := by
  cases here with
  | nil => cases found
  | cons token behind =>
    simp only [name?] at found
    split at found
    · next kind =>
      cases found
      exact ⟨⟨token, name, kind ▸ .identifier name⟩, rfl, rfl, rfl⟩
    · cases found

theorem expectSymbol_cons {origin : Origin} {mark : Symbol} {fault : GrammarFault} {token : Token}
    {rest : List Token} (isMark : IsSymbol mark token.kind) :
    expectSymbol origin mark fault (token :: rest) = .ok ⟨rest, Nat.lt_succ_self _⟩ := by
  rw [expectSymbol, symbol?_cons isMark]

theorem expectKeyword_cons {origin : Origin} {word : Keyword} {fault : GrammarFault}
    {token : Token} {rest : List Token} (isWord : IsKeyword word token.kind) :
    expectKeyword origin word fault (token :: rest) = .ok ⟨rest, Nat.lt_succ_self _⟩ := by
  rw [expectKeyword, keyword?_cons isWord]

theorem isSegment_iff {kind : TokenKind} : isSegment kind ↔ IsSegment kind := by
  constructor
  · intro holds
    cases kind with
    | identifier name => exact .identifier name
    | keyword word spelling => exact .keyword word spelling
    | boolean value => exact .boolean value
    | null => exact .null
    | _ => simp [isSegment, TokenKind.isReserved] at holds
  · intro segment
    cases segment <;> rfl

theorem literal?_iff {kind : TokenKind} {value : Json} :
    literal? kind = some value ↔ Denotes kind value := by
  constructor
  · intro found
    cases kind with
    | string text => cases found; exact .string text
    | integer value => cases found; exact .integer value
    | float value => cases found; exact .float value
    | boolean value => cases found; exact .boolean value
    | null => cases found; exact .null
    | _ => cases found
  · intro denotes
    cases denotes <;> rfl

theorem operatorOf?_iff {kind : TokenKind} {operator : Operator} :
    operatorOf? kind = some operator ↔ Compares kind operator := by
  constructor
  · intro found
    cases kind with
    | symbol mark spelling =>
      cases mark with
      | equal => cases found; exact .equal spelling
      | notEqual => cases found; exact .notEqual spelling
      | greater => cases found; exact .greater spelling
      | greaterOrEqual => cases found; exact .greaterOrEqual spelling
      | less => cases found; exact .less spelling
      | lessOrEqual => cases found; exact .lessOrEqual spelling
      | _ => cases found
    | _ => cases found
  · intro compares
    cases compares <;> rfl

/-! ### What derives is accepted -/

/-- The parser of a level, given the parser of whole conditions on fewer tokens. -/
def levelWith (origin : Origin) {bound : Nat} (inner : Inner bound) : Grammar.Level → Level bound
  | .operand => operand origin inner
  | .negated => negated origin inner
  | .ranged => ranged origin inner
  | .comparison => comparison origin inner
  | .joined .and => operands .and .and (comparison origin inner)
  | .joined .or => operands .or .or (operands .and .and (comparison origin inner))

theorem levelWith_joined (origin : Origin) {bound : Nat} (inner : Inner bound)
    (junction : Junction) : levelWith origin inner (.joined junction) =
      operands junction.keyword junction.operator (levelWith origin inner junction.part) := by
  cases junction <;> rfl

/-- The parser of whole conditions on fewer tokens. -/
def whole (origin : Origin) {bound : Nat} : Inner bound := fun here _ => condition origin here

/-- The parser accepts a phrase in front of tokens that do not continue it. -/
def Accepts (origin : Origin) : {category : Category} → Phrase category → Prop
  | .level level, phrase => ∀ {here rest : List Token} {bound : Nat} (fits : here.length ≤ bound),
      here = phrase.tokens ++ rest → level.Stops rest →
      forget (levelWith origin (whole origin) level here fits) = .ok (phrase.value origin, rest)
  | .further junction, phrase => ∀ {here rest : List Token} {bound : Nat} (left : Expr)
      (fits : here.length ≤ bound),
      here = phrase.tokens ++ rest → (Level.joined junction).Stops rest →
      ∃ shorter, moreOperands junction.keyword junction.operator
        (levelWith origin (whole origin) junction.part) left here fits =
          .ok (phrase.value origin left, ⟨rest, shorter⟩)
  | .arguments, phrase => ∀ {here rest : List Token} {bound : Nat} {closing : Token}
      (fits : here.length < bound),
      here = phrase.tokens ++ closing :: rest → IsSymbol .rightParen closing.kind →
      forget (callRest origin (whole origin) here fits) = .ok (phrase.value origin, rest)
  | .moreArguments, phrase => ∀ {here rest : List Token} {bound : Nat} {closing : Token}
      {argument : Expr} (fits : here.length < bound),
      forget (condition origin here) = .ok (argument, phrase.tokens ++ closing :: rest) →
      IsSymbol .rightParen closing.kind →
      forget (arguments origin (whole origin) here fits) =
        .ok (argument :: phrase.value origin, rest)

/-- The names behind the first one are accepted. -/
theorem moreSegments_complete (origin : Origin) (segments : List Segment) {here rest : List Token}
    (split : here = segments.flatMap Segment.tokens ++ rest) (stops : Level.operand.Stops rest) :
    ∃ shorter, moreSegments origin here =
      .ok (segments.map fun segment => segmentText origin segment.name, ⟨rest, shorter⟩) := by
  induction segments generalizing here with
  | nil =>
    obtain rfl : here = rest := split
    refine ⟨Nat.le_refl _, ?_⟩
    rw [moreSegments, symbol?_eq_none]
    · rfl
    · intro token first isDot
      obtain ⟨more, rfl⟩ := List.head?_eq_some_iff.mp first
      exact stops.not_dot isDot
  | cons next more ih =>
    generalize tailEq : more.flatMap Segment.tokens ++ rest = tail at ih
    obtain rfl : here = next.dot.val :: next.name :: tail := by
      rw [split, ← tailEq]
      rfl
    obtain ⟨shorter, found⟩ := ih rfl
    refine ⟨by simp only [List.length_cons]; omega, ?_⟩
    rw [moreSegments, symbol?_cons next.dot.property]
    simp only [segment, isSegment_iff.mpr next.fits, if_true, found]
    rfl

theorem condition_complete {origin : Origin} {phrase : Phrase (.level (.joined .or))}
    (accepts : Accepts origin phrase) {here rest : List Token}
    (split : here = phrase.tokens ++ rest) (stops : (Level.joined .or).Stops rest) :
    forget (condition origin here) = .ok (phrase.value origin, rest) := by
  rw [condition]
  exact accepts (Nat.le_refl _) split stops

theorem keyword?_junction {junction : Junction} {rest : List Token}
    (stops : (Level.joined junction).Stops rest) : keyword? junction.keyword rest = none := by
  refine keyword?_eq_none fun token first isWord => ?_
  obtain ⟨more, rfl⟩ := List.head?_eq_some_iff.mp first
  exact stops.not_junction isWord

theorem keyword?_not {phrase : Phrase (.level .operand)} {here rest : List Token}
    (split : here = phrase.tokens ++ rest) : keyword? .not here = none := by
  refine keyword?_eq_none fun token first isWord => ?_
  obtain ⟨more, rfl⟩ := List.head?_eq_some_iff.mp first
  exact Phrase.operand_ne_not split.symm isWord

theorem keyword?_between {rest : List Token} (stops : Level.ranged.Stops rest) :
    keyword? .between rest = none := by
  refine keyword?_eq_none fun token first isWord => ?_
  obtain ⟨more, rfl⟩ := List.head?_eq_some_iff.mp first
  exact stops.not_between isWord

theorem comparison?_eq_none {rest : List Token} (stops : Level.comparison.Stops rest) :
    comparison? rest = none := by
  cases rest with
  | nil => rfl
  | cons token more =>
    rw [comparison?, Option.map_eq_none_iff]
    refine Option.eq_none_iff_forall_ne_some.mpr fun operator found => ?_
    exact stops.not_compares (operatorOf?_iff.mp found)

theorem comparison?_cons {operator : Leaf Compares} {rest : List Token} :
    comparison? (operator.token :: rest) =
      some (operator.value, operator.token.position, ⟨rest, Nat.lt_succ_self _⟩) := by
  rw [comparison?, operatorOf?_iff.mpr operator.fits]
  rfl

/-- **The parser accepts every phrase**, and finds what the phrase stands for. -/
theorem accepts (origin : Origin) {category : Category} (phrase : Phrase category) :
    Accepts origin phrase := by
  induction phrase with
  | @joined junction first more ihFirst ihMore =>
    intro here rest bound fits split stops
    rw [Phrase.tokens, List.append_assoc] at split
    obtain ⟨shorter, found⟩ := forget_eq_ok.mp (ihFirst fits split (more.stops_further stops))
    obtain ⟨shorter', joined⟩ := ihMore (first.value origin)
      (Nat.le_trans (Nat.le_of_lt shorter) fits) rfl stops
    rw [levelWith_joined, operands]
    simp only [found, joined]
    rfl
  | finished =>
    intro here rest bound left fits split stops
    obtain rfl : here = rest := split
    refine ⟨Nat.le_refl _, ?_⟩
    rw [moreOperands, keyword?_junction stops]
    rfl
  | @further junction word next more ihNext ihMore =>
    intro here rest bound left fits split stops
    generalize tailEq : next.tokens ++ (more.tokens ++ rest) = tail
    obtain rfl : here = word.val :: tail := by
      rw [split, ← tailEq, Phrase.tokens, List.cons_append, List.append_assoc]
    have fits' : tail.length ≤ bound := Nat.le_of_succ_le fits
    obtain ⟨shorter, found⟩ := forget_eq_ok.mp (ihNext fits' tailEq.symm (more.stops_further stops))
    obtain ⟨shorter', joined⟩ := ihMore
      (.binary left junction.operator (next.value origin) word.val.position)
      (Nat.le_trans (Nat.le_of_lt shorter) fits') rfl stops
    refine ⟨Nat.le_trans shorter' (Nat.le_of_lt (Nat.lt_succ_of_lt shorter)), ?_⟩
    rw [moreOperands, keyword?_cons word.property]
    simp only [found, Rest.trans, joined]
    rfl
  | single inner ih =>
    intro here rest bound fits split stops
    obtain ⟨shorter, found⟩ := forget_eq_ok.mp (ih fits split (stops.mono (by decide)))
    simp only [levelWith] at found
    simp only [levelWith, comparison, found, comparison?_eq_none stops]
    rfl
  | compared left operator right ihLeft ihRight =>
    intro here rest bound fits split stops
    rw [Phrase.tokens, List.append_assoc, List.cons_append] at split
    obtain ⟨shorter, found⟩ := forget_eq_ok.mp
      (ihLeft fits split (Level.stops_compares operator.fits))
    obtain ⟨shorter', found'⟩ := forget_eq_ok.mp (@ihRight (right.tokens ++ rest) rest bound
      (Nat.le_trans (Nat.le_of_lt (Nat.lt_of_succ_lt shorter)) fits) rfl (stops.mono (by decide)))
    simp only [levelWith] at found found'
    simp only [levelWith, comparison, found, comparison?_cons, Rest.trans, found']
    rfl
  | plain inner ih =>
    intro here rest bound fits split stops
    obtain ⟨shorter, found⟩ := forget_eq_ok.mp (ih fits split (stops.mono (by decide)))
    simp only [levelWith] at found
    simp only [levelWith, ranged, found, keyword?_between stops]
    rfl
  | between inner word lower joint upper ihInner ihLower ihUpper =>
    intro here rest bound fits split stops
    simp only [Phrase.tokens, List.append_assoc, List.cons_append] at split
    obtain ⟨shorter, found⟩ := forget_eq_ok.mp
      (ihInner fits split (Level.stops_between word.property))
    have fits' := Nat.le_trans (Nat.le_of_lt (Nat.lt_of_succ_lt shorter)) fits
    obtain ⟨shorter', found'⟩ := forget_eq_ok.mp
      (ihLower fits' rfl (Level.stops_and joint.property))
    obtain ⟨shorter'', found''⟩ := forget_eq_ok.mp (@ihUpper (upper.tokens ++ rest) rest bound
      (Nat.le_trans (Nat.le_of_lt (Nat.lt_of_succ_lt shorter')) fits') rfl
      (stops.mono (by decide)))
    simp only [levelWith] at found found' found''
    simp only [levelWith, ranged, found, keyword?_cons word.property, rangeBounds, Rest.trans,
      found', expectKeyword_cons joint.property, found'']
    rfl
  | positive inner ih =>
    intro here rest bound fits split stops
    have found := ih fits split (stops.mono (by decide))
    simp only [levelWith] at found ⊢
    rw [negated, keyword?_not split]
    exact found
  | not word inner ih =>
    intro here rest bound fits split stops
    generalize tailEq : inner.tokens ++ rest = tail
    obtain rfl : here = word.val :: tail := by
      rw [split, ← tailEq, Phrase.tokens, List.cons_append]
    obtain ⟨shorter, found⟩ := forget_eq_ok.mp
      (ih (Nat.le_of_succ_le fits) tailEq.symm stops)
    simp only [levelWith] at found ⊢
    rw [negated, keyword?_cons word.property]
    simp only [found]
    rfl
  | literal leaf =>
    intro here rest bound fits split stops
    obtain rfl : here = leaf.token :: rest := split
    simp only [levelWith, operand, literal?_iff.mpr leaf.fits]
    rfl
  | parameter leaf =>
    intro here rest bound fits split stops
    obtain rfl : here = leaf.token :: rest := split
    obtain ⟨token, name, binds⟩ := leaf
    have kind : token.kind = .parameter name := by
      cases found : token.kind <;> rw [found] at binds <;> cases binds
      rfl
    simp only [levelWith, operand, kind, literal?]
    rfl
  | property path =>
    intro here rest bound fits split stops
    obtain ⟨⟨token, name, names⟩, more⟩ := path
    generalize tailEq : more.flatMap Segment.tokens ++ rest = tail
    obtain rfl : here = token :: tail := by
      rw [split, ← tailEq]
      rfl
    have kind : token.kind = .identifier name := by
      cases found : token.kind <;> rw [found] at names <;> cases names
      rfl
    obtain ⟨shorter, found⟩ := moreSegments_complete origin more tailEq.symm stops
    have noCall : symbol? .leftParen tail = none := by
      refine symbol?_eq_none fun next first isOpening => ?_
      obtain ⟨behind, rfl⟩ := List.head?_eq_some_iff.mp first
      exact segments_ne_opening stops tailEq isOpening
    simp only [levelWith, operand, kind, literal?, named, noCall, found]
    rfl
  | call name opening given closing ih =>
    intro here rest bound fits split stops
    obtain ⟨token, name, names⟩ := name
    generalize tailEq : given.tokens ++ closing.val :: rest = tail
    obtain rfl : here = token :: opening.val :: tail := by
      rw [split, ← tailEq]
      simp [Phrase.tokens]
    have kind : token.kind = .identifier name := by
      cases found : token.kind <;> rw [found] at names <;> cases names
      rfl
    obtain ⟨shorter, found⟩ := forget_eq_ok.mp
      (ih (Nat.lt_of_succ_le (Nat.le_of_succ_le fits)) tailEq.symm closing.property)
    simp only [levelWith, operand, kind, literal?, named, symbol?_cons opening.property, found]
    rfl
  | group opening inner closing ih =>
    intro here rest bound fits split stops
    generalize tailEq : inner.tokens ++ closing.val :: rest = tail
    obtain rfl : here = opening.val :: tail := by
      rw [split, ← tailEq]
      simp [Phrase.tokens]
    obtain ⟨spelling, kind⟩ := opening.property
    obtain ⟨shorter, found⟩ := forget_eq_ok.mp
      (condition_complete ih tailEq.symm (Level.stops_closing closing.property))
    simp only [levelWith, operand, kind, literal?, grouped, whole, found,
      expectSymbol_cons closing.property]
    rfl
  | noArguments =>
    intro here rest bound closing fits split isClosing
    obtain rfl : here = closing :: rest := split
    simp only [callRest, symbol?_cons isClosing]
    rfl
  | someArguments first more ihFirst ihMore =>
    intro here rest bound closing fits split isClosing
    rw [Phrase.tokens, List.append_assoc] at split
    have found := condition_complete ihFirst split
      (more.stops_moreArguments ⟨closing, rest, rfl, isClosing⟩)
    have noClosing : symbol? .rightParen here = none := by
      refine symbol?_eq_none fun next head isNext => ?_
      obtain ⟨behind, rfl⟩ := List.head?_eq_some_iff.mp head
      exact Phrase.level_ne_closing split.symm isNext
    simp only [callRest, noClosing]
    exact ihMore fits found isClosing
  | noFurtherArgument =>
    intro here rest bound closing argument fits found isClosing
    obtain ⟨shorter, found⟩ := forget_eq_ok.mp found
    have noComma : symbol? .comma (closing :: rest) = none := by
      refine symbol?_eq_none fun next head isNext => ?_
      obtain ⟨spelling, kind⟩ := isClosing
      obtain rfl : closing = next := by simpa using head
      obtain ⟨spelling', kind'⟩ := isNext
      rw [kind] at kind'
      cases kind'
    rw [arguments]
    simp only [whole, found, Phrase.tokens, List.nil_append, noComma, expectSymbol_cons isClosing]
    rfl
  | furtherArgument comma next more ihNext ihMore =>
    intro here rest bound closing argument fits found isClosing
    simp only [Phrase.tokens, List.cons_append, List.append_assoc] at found
    obtain ⟨shorter, found⟩ := forget_eq_ok.mp found
    have found' := condition_complete ihNext rfl
      (more.stops_moreArguments ⟨closing, rest, rfl, isClosing⟩)
    obtain ⟨shorter', others⟩ := forget_eq_ok.mp
      (ihMore (Nat.lt_trans (Nat.lt_of_succ_lt shorter) fits) found' isClosing)
    rw [arguments]
    simp only [whole, found, symbol?_cons comma.property, Rest.trans, others]
    rfl

/-! ### What is accepted derives -/

theorem exists_of_comparison? {here : List Token} {operator : Operator} {position : Position}
    {rest : Rest here} (found : comparison? here = some (operator, position, rest)) :
    ∃ leaf : Leaf Compares, here = leaf.token :: rest.val ∧ leaf.value = operator ∧
      leaf.token.position = position := by
  cases here with
  | nil => cases found
  | cons token behind =>
    obtain ⟨value, isOperator, same⟩ := Option.map_eq_some_iff.mp found
    cases same
    exact ⟨⟨token, operator, operatorOf?_iff.mp isOperator⟩, rfl, rfl, rfl⟩

theorem exists_of_expectSymbol {origin : Origin} {mark : Symbol} {fault : GrammarFault}
    {here : List Token} {rest : Rest here}
    (found : expectSymbol origin mark fault here = .ok rest) :
    ∃ token : Mark mark, here = token.val :: rest.val := by
  rw [expectSymbol] at found
  split at found
  · next behind isMark =>
    cases found
    exact exists_of_symbol? isMark
  · cases found

theorem exists_of_expectKeyword {origin : Origin} {word : Keyword} {fault : GrammarFault}
    {here : List Token} {rest : Rest here}
    (found : expectKeyword origin word fault here = .ok rest) :
    ∃ token : Word word, here = token.val :: rest.val := by
  rw [expectKeyword] at found
  split at found
  · next position behind isWord =>
    cases found
    obtain ⟨token, split, -⟩ := exists_of_keyword? isWord
    exact ⟨token, split⟩
  · cases found

theorem exists_of_segment {origin : Origin} {here : List Token} {name : String} {rest : Rest here}
    (found : segment origin here = .ok (name, rest)) :
    ∃ token, here = token :: rest.val ∧ IsSegment token.kind ∧ segmentText origin token = name := by
  cases here with
  | nil => cases found
  | cons token behind =>
    rw [segment] at found
    split at found
    · next isName =>
      cases found
      exact ⟨token, rfl, isSegment_iff.mp isName, rfl⟩
    · cases found

/-- The names behind the first one derive. -/
theorem moreSegments_sound {origin : Origin} {here : List Token} {names : List String}
    {rest : Tail here} (found : moreSegments origin here = .ok (names, rest)) :
    ∃ segments : List Segment, here = segments.flatMap Segment.tokens ++ rest.val ∧
      (segments.map fun segment => segmentText origin segment.name) = names := by
  fun_induction moreSegments origin here generalizing names with
  | case1 here absent =>
    cases found
    exact ⟨[], rfl, rfl⟩
  | case2 here behindDot isDot failure refused => cases found
  | case3 here behindDot isDot name behindName isName failure refused ih => cases found
  | case4 here behindDot isDot name behindName isName names' rest' more ih =>
    cases found
    obtain ⟨segments, split, same⟩ := ih more
    obtain ⟨dot, dotSplit⟩ := exists_of_symbol? isDot
    obtain ⟨token, nameSplit, fits, text⟩ := exists_of_segment isName
    refine ⟨⟨dot, token, fits⟩ :: segments, ?_, ?_⟩
    · exact dotSplit.trans (congrArg (dot.val :: ·) (nameSplit.trans (congrArg (token :: ·) split)))
    · rw [List.map_cons, same, text]

/-- What a parser of a level accepts derives. -/
def Sound (origin : Origin) {bound : Nat} (level : Grammar.Level) (parser : Level bound) : Prop :=
  ∀ {here : List Token} {fits : here.length ≤ bound} {found : Expr} {rest : Rest here},
    parser here fits = .ok (found, rest) →
      ∃ phrase : Phrase (.level level), here = phrase.tokens ++ rest.val ∧
        phrase.value origin = found

/-- What a parser of whole conditions on fewer tokens accepts derives. -/
def InnerSound (origin : Origin) {bound : Nat} (inner : Inner bound) : Prop :=
  ∀ ⦃here : List Token⦄ ⦃fits : here.length < bound⦄ ⦃found : Expr⦄ ⦃rest : Rest here⦄,
    inner here fits = .ok (found, rest) →
      ∃ phrase : Phrase (.level (.joined .or)), here = phrase.tokens ++ rest.val ∧
        phrase.value origin = found

section Levels

variable {origin : Origin} {bound : Nat} {inner : Inner bound} (sound : InnerSound origin inner)

include sound

theorem arguments_sound {here : List Token} {fits : here.length < bound} {found : List Expr}
    {rest : Rest here} (accepted : arguments origin inner here fits = .ok (found, rest)) :
    ∃ (first : Phrase (.level (.joined .or))) (more : Phrase .moreArguments)
      (closing : Mark .rightParen),
      here = first.tokens ++ (more.tokens ++ closing.val :: rest.val) ∧
        first.value origin :: more.value origin = found := by
  fun_induction arguments origin inner here fits generalizing found with
  | case1 here fits failure refused => cases accepted
  | case2 here fits argument behind first behindComma isComma failure refused ih => cases accepted
  | case3 here fits argument behind first behindComma isComma others rest' further ih =>
    cases accepted
    obtain ⟨phrase, split, rfl⟩ := sound first
    obtain ⟨next, more, closing, split', rfl⟩ := ih further
    obtain ⟨comma, commaSplit⟩ := exists_of_symbol? isComma
    refine ⟨phrase, .furtherArgument comma next more, closing, ?_, rfl⟩
    rw [Phrase.tokens, List.cons_append, List.append_assoc]
    exact split.trans
      (congrArg (phrase.tokens ++ ·) (commaSplit.trans (congrArg (comma.val :: ·) split')))
  | case4 here fits argument behind first noComma failure refused => cases accepted
  | case5 here fits argument behind first noComma rest' isClosing =>
    cases accepted
    obtain ⟨phrase, split, rfl⟩ := sound first
    obtain ⟨closing, closingSplit⟩ := exists_of_expectSymbol isClosing
    exact ⟨phrase, .noFurtherArgument, closing,
      split.trans (congrArg (phrase.tokens ++ ·) closingSplit), rfl⟩

theorem callRest_sound {here : List Token} {fits : here.length < bound} {found : List Expr}
    {rest : Rest here} (accepted : callRest origin inner here fits = .ok (found, rest)) :
    ∃ (given : Phrase .arguments) (closing : Mark .rightParen),
      here = given.tokens ++ closing.val :: rest.val ∧ given.value origin = found := by
  rw [callRest] at accepted
  split at accepted
  · next behind isClosing =>
    cases accepted
    obtain ⟨closing, split⟩ := exists_of_symbol? isClosing
    exact ⟨.noArguments, closing, split, rfl⟩
  · obtain ⟨first, more, closing, split, same⟩ := arguments_sound sound accepted
    refine ⟨.someArguments first more, closing, ?_, same⟩
    rw [Phrase.tokens, List.append_assoc]
    exact split

theorem grouped_sound {here : List Token} {fits : here.length < bound} {found : Expr}
    {rest : Rest here} (accepted : grouped origin inner here fits = .ok (found, rest)) :
    ∃ (phrase : Phrase (.level (.joined .or))) (closing : Mark .rightParen),
      here = phrase.tokens ++ closing.val :: rest.val ∧ phrase.value origin = found := by
  rw [grouped] at accepted
  split at accepted
  · cases accepted
  · next found behind first =>
    split at accepted
    · cases accepted
    · next rest' isClosing =>
      cases accepted
      obtain ⟨phrase, split, same⟩ := sound first
      obtain ⟨closing, closingSplit⟩ := exists_of_expectSymbol isClosing
      exact ⟨phrase, closing, split.trans (congrArg (phrase.tokens ++ ·) closingSplit), same⟩

/-- What stands behind a name makes it a call or a path. -/
theorem named_sound {name : Leaf Names} {here : List Token} {fits : here.length < bound}
    {found : Expr} {rest : Tail here}
    (accepted : named origin inner name.value name.token.position here fits = .ok (found, rest)) :
    ∃ phrase : Phrase (.level .operand), name.token :: here = phrase.tokens ++ rest.val ∧
      phrase.value origin = found := by
  rw [named] at accepted
  split at accepted
  · next behind isOpening =>
    split at accepted
    · cases accepted
    · next found rest' isCall =>
      cases accepted
      obtain ⟨opening, openingSplit⟩ := exists_of_symbol? isOpening
      obtain ⟨given, closing, split, rfl⟩ := callRest_sound sound isCall
      refine ⟨.call name opening given closing, ?_, rfl⟩
      simp only [Phrase.tokens, List.cons_append, List.append_assoc, List.nil_append]
      exact congrArg (name.token :: ·) (openingSplit.trans (congrArg (opening.val :: ·) split))
  · split at accepted
    · cases accepted
    · next names rest' isPath =>
      cases accepted
      obtain ⟨segments, split, rfl⟩ := moreSegments_sound isPath
      exact ⟨.property ⟨name, segments⟩, congrArg (name.token :: ·) split, rfl⟩

theorem operand_sound : Sound origin .operand (operand origin inner) := by
  intro here fits found rest accepted
  cases here with
  | nil => cases accepted
  | cons token behind =>
    simp only [operand] at accepted
    split at accepted
    · next value isLiteral =>
      cases accepted
      exact ⟨.literal ⟨token, value, literal?_iff.mp isLiteral⟩, rfl, rfl⟩
    · split at accepted
      · next name kind =>
        cases accepted
        exact ⟨.parameter ⟨token, name, kind ▸ .parameter name⟩, rfl, rfl⟩
      · next spelling kind =>
        split at accepted
        · cases accepted
        · next found rest' isGroup =>
          cases accepted
          obtain ⟨phrase, closing, split, same⟩ := grouped_sound sound isGroup
          refine ⟨.group ⟨token, spelling, kind⟩ phrase closing, ?_, same⟩
          simp only [Phrase.tokens, List.cons_append, List.append_assoc, List.nil_append]
          exact congrArg (token :: ·) split
      · next name kind =>
        split at accepted
        · cases accepted
        · next found rest' isNamed =>
          cases accepted
          let leaf : Leaf Names := ⟨token, name, kind ▸ .identifier name⟩
          exact @named_sound _ _ _ sound leaf _ _ _ _ isNamed
      · cases accepted

theorem negated_sound : Sound origin .negated (negated origin inner) := by
  intro here fits found rest accepted
  fun_induction negated origin inner here fits generalizing found with
  | case1 here fits absent =>
    obtain ⟨phrase, split, same⟩ := operand_sound sound accepted
    exact ⟨.positive phrase, split, same⟩
  | case2 here fits position behind isWord failure refused ih => cases accepted
  | case3 here fits position behind isWord found rest' isNegated ih =>
    cases accepted
    obtain ⟨word, wordSplit, rfl⟩ := exists_of_keyword? isWord
    obtain ⟨phrase, split, rfl⟩ := ih isNegated
    exact ⟨.not word phrase, wordSplit.trans (congrArg (word.val :: ·) split), rfl⟩

theorem rangeBounds_sound {here : List Token} {fits : here.length ≤ bound} {lower upper : Expr}
    {rest : Rest here}
    (accepted : rangeBounds origin inner here fits = .ok ((lower, upper), rest)) :
    ∃ (first : Phrase (.level .negated)) (joint : Word .and) (second : Phrase (.level .negated)),
      here = first.tokens ++ joint.val :: (second.tokens ++ rest.val) ∧
        first.value origin = lower ∧ second.value origin = upper := by
  rw [rangeBounds] at accepted
  split at accepted
  · cases accepted
  · next found behind isLower =>
    split at accepted
    · cases accepted
    · next behindAnd isAnd =>
      dsimp only at accepted
      split at accepted
      · cases accepted
      · next found' rest' isUpper =>
        cases accepted
        obtain ⟨first, split, same⟩ := negated_sound sound isLower
        obtain ⟨joint, jointSplit⟩ := exists_of_expectKeyword isAnd
        obtain ⟨second, split', same'⟩ := negated_sound sound isUpper
        exact ⟨first, joint, second, split.trans (congrArg (first.tokens ++ ·)
          (jointSplit.trans (congrArg (joint.val :: ·) split'))), same, same'⟩

theorem ranged_sound : Sound origin .ranged (ranged origin inner) := by
  intro here fits found rest accepted
  rw [ranged] at accepted
  split at accepted
  · cases accepted
  · next value behind isValue =>
    obtain ⟨phrase, split, same⟩ := negated_sound sound isValue
    split at accepted
    · cases accepted
      exact ⟨.plain phrase, split, same⟩
    · next position behindWord isWord =>
      dsimp only at accepted
      split at accepted
      · cases accepted
      · next lower upper rest' isRange =>
        cases accepted
        obtain ⟨word, wordSplit, rfl⟩ := exists_of_keyword? isWord
        obtain ⟨first, joint, second, split', rfl, rfl⟩ := rangeBounds_sound sound isRange
        subst same
        refine ⟨.between phrase word first joint second, ?_, rfl⟩
        simp only [Phrase.tokens, List.append_assoc, List.cons_append]
        exact split.trans
          (congrArg (phrase.tokens ++ ·) (wordSplit.trans (congrArg (word.val :: ·) split')))

theorem comparison_sound : Sound origin .comparison (comparison origin inner) := by
  intro here fits found rest accepted
  rw [comparison] at accepted
  split at accepted
  · cases accepted
  · next left behind isLeft =>
    obtain ⟨phrase, split, same⟩ := ranged_sound sound isLeft
    split at accepted
    · cases accepted
      exact ⟨.single phrase, split, same⟩
    · next operator position behindOperator isOperator =>
      dsimp only at accepted
      split at accepted
      · cases accepted
      · next right rest' isRight =>
        cases accepted
        obtain ⟨leaf, leafSplit, rfl, rfl⟩ := exists_of_comparison? isOperator
        obtain ⟨phrase', split', rfl⟩ := ranged_sound sound isRight
        subst same
        refine ⟨.compared phrase leaf phrase', ?_, rfl⟩
        simp only [Phrase.tokens, List.append_assoc, List.cons_append]
        exact split.trans
          (congrArg (phrase.tokens ++ ·) (leafSplit.trans (congrArg (leaf.token :: ·) split')))

end Levels

theorem moreOperands_sound {origin : Origin} {bound : Nat} {junction : Junction}
    {level : Level bound} (sound : Sound origin junction.part level) {left found : Expr}
    {here : List Token} {fits : here.length ≤ bound} {rest : Tail here}
    (accepted : moreOperands junction.keyword junction.operator level left here fits =
      .ok (found, rest)) :
    ∃ phrase : Phrase (.further junction), here = phrase.tokens ++ rest.val ∧
      phrase.value origin left = found := by
  fun_induction moreOperands junction.keyword junction.operator level left here fits
    generalizing found with
  | case1 left here fits absent =>
    cases accepted
    exact ⟨.finished, rfl, rfl⟩
  | case2 left here fits position behind isWord failure refused => cases accepted
  | case3 left here fits position behind isWord right behindRight isRight failure refused ih =>
    cases accepted
  | case4 left here fits position behind isWord right behindRight isRight rest' found tail
      further =>
    rename_i ih
    cases accepted
    obtain ⟨word, wordSplit, rfl⟩ := exists_of_keyword? isWord
    obtain ⟨next, split, rfl⟩ := sound isRight
    obtain ⟨more, split', rfl⟩ := ih further
    refine ⟨.further word next more, ?_, rfl⟩
    simp only [Phrase.tokens, List.append_assoc, List.cons_append]
    exact wordSplit.trans
      (congrArg (word.val :: ·) (split.trans (congrArg (next.tokens ++ ·) split')))

theorem operands_sound {origin : Origin} {bound : Nat} (junction : Junction) {level : Level bound}
    (sound : Sound origin junction.part level) :
    Sound origin (.joined junction) (operands junction.keyword junction.operator level) := by
  intro here fits found rest accepted
  rw [operands] at accepted
  split at accepted
  · cases accepted
  · next left behind isLeft =>
    split at accepted
    · cases accepted
    · next found' tail isMore =>
      cases accepted
      obtain ⟨first, split, rfl⟩ := sound isLeft
      obtain ⟨more, split', rfl⟩ := moreOperands_sound sound isMore
      refine ⟨.joined first more, ?_, rfl⟩
      rw [Phrase.tokens, List.append_assoc]
      exact split.trans (congrArg (first.tokens ++ ·) split')

/-- **What the parser accepts as a condition derives.** -/
theorem condition_sound {origin : Origin} {here : List Token} {found : Expr} {rest : Rest here}
    (accepted : condition origin here = .ok (found, rest)) :
    ∃ phrase : Phrase (.level (.joined .or)), here = phrase.tokens ++ rest.val ∧
      phrase.value origin = found := by
  rw [condition] at accepted
  have sound : @InnerSound origin here.length fun rest _ => condition origin rest :=
    fun _ _ _ _ accepted => condition_sound accepted
  have level : Sound origin .comparison (comparison origin fun rest _ => condition origin rest) :=
    comparison_sound sound
  exact operands_sound .or (operands_sound .and level) accepted
termination_by here.length

end Parser

end DocQuery
