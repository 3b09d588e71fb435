/-
**A query is accepted exactly if it derives.**

* `Parser.query_complete`: the parser accepts what derives, and finds what it stands for;
* `Parser.query_sound`: what the parser accepts derives, and it finds what that stands for;
* `Query.ofTokens_exact`: tokens form a query exactly if they derive one with no negative count, by
  one derivation only, and the query is what the derivation stands for.
-/

import DocQuery.Proofs.Except
import DocQuery.Proofs.Query.Parsing

namespace DocQuery

namespace Parser

open Grammar

/-! ### What derives is accepted -/

section Complete

variable (origin : Origin) {here rest : List Token}

theorem path_complete (path : Path) (split : here = path.tokens ++ rest)
    (stops : Level.operand.Stops rest) :
    forget (Parser.path origin here) = .ok (path.value origin, rest) := by
  obtain ⟨first, more⟩ := path
  generalize tailEq : more.flatMap Segment.tokens ++ rest = tail
  obtain rfl : here = first.token :: tail := by
    rw [split, ← tailEq]
    rfl
  obtain ⟨shorter, found⟩ := moreSegments_complete origin more tailEq.symm stops
  simp only [Parser.path, name?_cons, found]
  rfl

/-- Items with commas between them are accepted if each item is, in front of tokens with a given
property. -/
theorem separated_complete {α β : Type} {parser : (here : List Token) → Step β here}
    {item : α → List Token} {value : α → β} (behind : List Token → Prop)
    (inside : ∀ found {here rest}, here = item found ++ rest → behind rest →
      forget (parser here) = .ok (value found, rest))
    (comma : ∀ (comma : Mark .comma) rest, behind (comma.val :: rest))
    (items : Separated α) (split : here = items.tokens item ++ rest) (last : behind rest)
    (free : ∀ token ∈ rest.head?, ¬ IsSymbol .comma token.kind) :
    forget (separated parser here) = .ok (items.items.map value, rest) := by
  obtain ⟨first, more⟩ := items
  induction more generalizing first here with
  | nil =>
    rw [Separated.tokens, List.flatMap_nil, List.append_nil] at split
    obtain ⟨shorter, found⟩ := forget_eq_ok.mp (inside first split last)
    rw [separated]
    simp only [found, symbol?_eq_none free]
    rfl
  | cons next more ih =>
    obtain ⟨sign, second⟩ := next
    generalize tailEq : (Separated.mk second more).tokens item ++ rest = tail
    have split : here = item first ++ sign.val :: tail := by
      rw [split, ← tailEq]
      simp [Separated.tokens]
    obtain ⟨shorter, found⟩ := forget_eq_ok.mp (inside first split (comma sign tail))
    obtain ⟨shorter', others⟩ := forget_eq_ok.mp (ih second tailEq.symm)
    rw [separated]
    simp only [found, symbol?_cons sign.property, others]
    rfl

theorem orderKey_complete (key : KeyPhrase) (split : here = key.tokens ++ rest)
    (ends : EndsKey rest) : forget (orderKey origin here) = .ok (key.value origin, rest) := by
  obtain ⟨path, direction⟩ := key
  rw [KeyPhrase.tokens, List.append_assoc] at split
  obtain ⟨shorter, found⟩ := forget_eq_ok.mp
    (path_complete origin path split (direction.stops ends))
  cases direction with
  | unmarked =>
    have noDescending : keyword? .desc rest = none :=
      keyword?_eq_none fun token first => (ends.unmarked token first).2
    have noAscending : keyword? .asc rest = none :=
      keyword?_eq_none fun token first => (ends.unmarked token first).1
    simp only [Direction.tokens, List.nil_append] at found
    simp only [orderKey, found, noDescending, noAscending]
    rfl
  | ascending word =>
    have noDescending : keyword? .desc (word.val :: rest) = none := by
      refine keyword?_eq_none ?_
      rintro token first ⟨spelling, kind⟩
      obtain rfl : word.val = token := by simpa using first
      obtain ⟨spelling', kind'⟩ := word.property
      rw [kind] at kind'
      cases kind'
    simp only [Direction.tokens, List.cons_append, List.nil_append] at found
    simp only [orderKey, found, noDescending, keyword?_cons word.property]
    rfl
  | descending word =>
    simp only [Direction.tokens, List.cons_append, List.nil_append] at found
    simp only [orderKey, found, keyword?_cons word.property]
    rfl

/-- A clause is accepted if what it holds is. -/
theorem clause?_complete {word : Keyword} {α β : Type}
    {parser : List Token → Except GrammarError (β × List Token)} {body : α → List Token}
    (value : α → β) (clause : Clause word α)
    (inside : ∀ found ∈ clause, parser (body found.2 ++ rest) = .ok (value found.2, rest))
    (absent : ∀ token ∈ rest.head?, ¬ IsKeyword word token.kind) :
    clause? word parser (clause.tokens body ++ rest) =
      .ok (clause.map fun found => value found.2, rest) := by
  cases clause with
  | none =>
    rw [Clause.tokens, List.nil_append, clause?, keyword?_eq_none absent]
    rfl
  | some found =>
    obtain ⟨first, found⟩ := found
    rw [Clause.tokens, List.cons_append, clause?, keyword?_cons first.property]
    simp only [inside _ rfl]
    rfl

theorem expectCount_complete {word : Keyword} (count : Leaf Counts) (rest : List Token)
    (nonnegative : 0 ≤ count.value) :
    forget (expectCount origin word (countTokens count ++ rest)) =
      .ok (count.value.toNat, rest) := by
  obtain ⟨token, value, counts⟩ := count
  have kind : token.kind = .integer value := by
    cases found : token.kind <;> rw [found] at counts <;> cases counts
    rfl
  have natural : ¬ value < 0 := Int.not_lt.mpr nonnegative
  simp only [countTokens, List.cons_append, expectCount, kind, if_neg natural]
  rfl

theorem countClause_complete {word : Keyword} (clause : Clause word (Leaf Counts))
    (nonnegative : ∀ found ∈ clause, 0 ≤ found.2.value)
    (absent : ∀ token ∈ rest.head?, ¬ IsKeyword word token.kind) :
    clause? word (fun here => forget (expectCount origin word here))
        (clause.tokens countTokens ++ rest) =
      .ok (clause.map fun found => found.2.value.toNat, rest) := by
  refine clause?_complete (fun count => count.value.toNat) clause (fun found member => ?_) absent
  exact expectCount_complete origin found.2 rest (nonnegative found member)

theorem selection_complete (phrase : SelectPhrase) (word : Word .from) (rest : List Token) :
    selection origin (phrase.tokens ++ word.val :: rest) =
      .ok (phrase.value origin, word.val :: rest) := by
  cases phrase with
  | all star =>
    simp only [SelectPhrase.tokens, List.cons_append, selection, symbol?_cons star.property]
    rfl
  | paths listed =>
    have noStar : symbol? .star (listed.tokens Path.tokens ++ word.val :: rest) = none := by
      refine symbol?_eq_none ?_
      rintro token first ⟨spelling, kind⟩
      obtain rfl : listed.first.first.token = token := by
        simpa [Separated.tokens, Path.tokens] using first
      have names := listed.first.first.fits
      rw [kind] at names
      cases names
    have free : ∀ token ∈ (word.val :: rest).head?, ¬ IsSymbol .comma token.kind := by
      rintro token first ⟨spelling, kind⟩
      obtain rfl : word.val = token := by simpa using first
      obtain ⟨spelling', kind'⟩ := word.property
      rw [kind] at kind'
      cases kind'
    obtain ⟨shorter, found⟩ := forget_eq_ok.mp (separated_complete Level.operand.Stops
      (fun found _ _ split stops => path_complete origin found split stops)
      (fun comma _ => Level.stops_comma comma.property) listed rfl (stops_from word.property) free)
    rw [SelectPhrase.tokens, selection, noStar]
    simp only [found]
    rfl

theorem alias?_complete (phrase : AliasPhrase) (opens : Opens closingWords rest) :
    alias? origin (phrase.tokens ++ rest) = .ok (phrase.value, rest) := by
  cases phrase with
  | absent =>
    have noName : name? rest = none := by
      refine Option.eq_none_iff_forall_ne_some.mpr fun ⟨name, position, behind⟩ found => ?_
      obtain ⟨leaf, split, -⟩ := exists_of_name? found
      rw [split] at opens
      exact opens.not_names leaf.fits
    have noWord : keyword? .as rest = none := keyword?_eq_none (opens.absent (by decide))
    rw [AliasPhrase.tokens, List.nil_append, alias?, noWord, noName]
    rfl
  | plain name =>
    have noWord : keyword? .as (name.token :: rest) = none := by
      refine keyword?_eq_none fun token first isWord => ?_
      obtain rfl : name.token = token := by simpa using first
      have lead := name.fits.lead
      rw [isWord.lead] at lead
      cases lead
    simp only [AliasPhrase.tokens, List.cons_append, List.nil_append, alias?, noWord, name?_cons]
    rfl
  | marked word name =>
    simp only [AliasPhrase.tokens, List.cons_append, List.nil_append, alias?,
      keyword?_cons word.property, expectName, name?_cons]
    rfl

theorem source_complete (name : Leaf Names) (phrase : AliasPhrase)
    (opens : Opens closingWords rest) :
    source origin (name.token :: (phrase.tokens ++ rest)) =
      .ok (⟨name.value, phrase.value⟩, rest) := by
  simp only [source, expectName, name?_cons, bind, Except.bind, alias?_complete origin phrase opens]
  rfl

theorem orderKeys_complete (order : OrderPhrase) (opens : Opens [.limit] rest) :
    orderKeys origin (order.tokens ++ rest) =
      .ok (order.keys.items.map (KeyPhrase.value origin), rest) := by
  have found := separated_complete EndsKey
    (fun found _ _ split ends => orderKey_complete origin found split ends)
    endsKey_comma order.keys rfl (opens.endsKey (by decide)) opens.comma
  simp only [orderKeys, OrderPhrase.tokens, List.cons_append,
    expectKeyword_cons order.word.property, bind, Except.bind]
  exact found

/-- **The parser accepts what derives**, and finds what it stands for. -/
theorem query_complete (phrase : QueryPhrase)
    (nonnegative : phrase.CountsNonnegative) :
    query origin phrase.tokens = .ok (phrase.value origin) := by
  obtain ⟨topNonnegative, limitNonnegative⟩ := nonnegative
  have limitOpens : Opens [.limit] (phrase.limit.tokens countTokens) := by
    rw [← List.append_nil (phrase.limit.tokens countTokens)]
    exact Opens.clause _ _ (Opens.nil [])
  have orderOpens : Opens [.order, .limit]
      (phrase.order.tokens OrderPhrase.tokens ++ phrase.limit.tokens countTokens) :=
    Opens.clause _ _ limitOpens
  have condition : clause? .where (fun here => forget (condition origin here))
      phrase.closingTokens = .ok (phrase.condition.map fun clause => clause.2.value origin, _) :=
    clause?_complete (Phrase.value origin) phrase.condition
      (fun found _ => condition_complete (accepts origin found.2) rfl
        (orderOpens.stops (by simp [continuedFrom?]) _)) (orderOpens.absent (by decide))
  have order : clause? .order (orderKeys origin)
      (phrase.order.tokens OrderPhrase.tokens ++ phrase.limit.tokens countTokens) =
        .ok (phrase.order.map fun clause => clause.2.keys.items.map (KeyPhrase.value origin), _) :=
    clause?_complete (fun order => order.keys.items.map (KeyPhrase.value origin)) phrase.order
      (fun found _ => orderKeys_complete origin found.2 limitOpens)
      (limitOpens.absent (by decide))
  have limit := countClause_complete origin phrase.limit limitNonnegative
    ((Opens.nil []).absent (by decide))
  rw [List.append_nil] at limit
  have noTop : ∀ token ∈ (phrase.selection.tokens ++ phrase.word.val :: phrase.source.token ::
      (phrase.reference.tokens ++ phrase.closingTokens)).head?, ¬ IsKeyword .top token.kind := by
    intro token first
    obtain ⟨more, split⟩ := List.head?_eq_some_iff.mp first
    exact SelectPhrase.ne_keyword split
  have top := countClause_complete origin phrase.top topNonnegative noTop
  have source := source_complete origin phrase.source phrase.reference phrase.opens_closingTokens
  simp only [query, QueryPhrase.tokens, expectKeyword_cons phrase.select.property, top,
    selection_complete, expectKeyword_cons phrase.word.property, source, condition, order, limit,
    bind, Except.bind]
  rfl

end Complete

/-! ### What is accepted derives -/

section Sound

variable {origin : Origin} {here : List Token}

theorem path_sound {name : String} {rest : Rest here}
    (accepted : Parser.path origin here = .ok (name, rest)) :
    ∃ path : Path, here = path.tokens ++ rest.val ∧ path.value origin = name := by
  rw [Parser.path] at accepted
  split at accepted
  · cases accepted
  · next first position behind isName =>
    split at accepted
    · cases accepted
    · next names tail isMore =>
      cases accepted
      obtain ⟨leaf, split, rfl, -⟩ := exists_of_name? isName
      obtain ⟨segments, split', rfl⟩ := moreSegments_sound isMore
      exact ⟨⟨leaf, segments⟩, split.trans (congrArg (leaf.token :: ·) split'), rfl⟩

/-- Accepted items with commas between them derive if each accepted item does. -/
theorem separated_sound {α β : Type} {parser : (here : List Token) → Step β here}
    {item : α → List Token} {value : α → β}
    (inside : ∀ {here found} {rest : Rest here}, parser here = .ok (found, rest) →
      ∃ phrase, here = item phrase ++ rest.val ∧ value phrase = found)
    {found : List β} {rest : Rest here} (accepted : separated parser here = .ok (found, rest)) :
    ∃ items : Separated α, here = items.tokens item ++ rest.val ∧
      items.items.map value = found := by
  fun_induction separated parser here generalizing found with
  | case1 here failure refused => cases accepted
  | case2 here first behind isFirst noComma =>
    cases accepted
    obtain ⟨phrase, split, rfl⟩ := inside isFirst
    refine ⟨⟨phrase, []⟩, ?_, rfl⟩
    rw [Separated.tokens, List.flatMap_nil, List.append_nil]
    exact split
  | case3 here first behind isFirst behindComma isComma failure refused ih => cases accepted
  | case4 here first behind isFirst behindComma isComma more tail further ih =>
    cases accepted
    obtain ⟨phrase, split, rfl⟩ := inside isFirst
    obtain ⟨comma, commaSplit⟩ := exists_of_symbol? isComma
    obtain ⟨⟨second, others⟩, split', rfl⟩ := ih further
    refine ⟨⟨phrase, (comma, second) :: others⟩, ?_, rfl⟩
    have tokens : (Separated.mk phrase ((comma, second) :: others)).tokens item =
        item phrase ++ comma.val :: (Separated.mk second others).tokens item := by
      simp [Separated.tokens]
    rw [tokens, List.append_assoc, List.cons_append]
    exact split.trans
      (congrArg (item phrase ++ ·) (commaSplit.trans (congrArg (comma.val :: ·) split')))

theorem orderKey_sound {found : OrderKey} {rest : Rest here}
    (accepted : orderKey origin here = .ok (found, rest)) :
    ∃ key : KeyPhrase, here = key.tokens ++ rest.val ∧ key.value origin = found := by
  rw [orderKey] at accepted
  split at accepted
  · cases accepted
  · next name behind isPath =>
    obtain ⟨path, split, same⟩ := path_sound isPath
    subst same
    split at accepted
    · next position behindWord isWord =>
      cases accepted
      obtain ⟨word, wordSplit, -⟩ := exists_of_keyword? isWord
      refine ⟨⟨path, .descending word⟩, ?_, rfl⟩
      rw [KeyPhrase.tokens, List.append_assoc]
      exact split.trans (congrArg (path.tokens ++ ·) wordSplit)
    · split at accepted
      · next position behindWord isWord =>
        cases accepted
        obtain ⟨word, wordSplit, -⟩ := exists_of_keyword? isWord
        refine ⟨⟨path, .ascending word⟩, ?_, rfl⟩
        rw [KeyPhrase.tokens, List.append_assoc]
        exact split.trans (congrArg (path.tokens ++ ·) wordSplit)
      · cases accepted
        refine ⟨⟨path, .unmarked⟩, ?_, rfl⟩
        rw [KeyPhrase.tokens, Direction.tokens, List.append_nil]
        exact split

/-- An accepted clause derives if what it holds does, and what it holds has the properties of what
is accepted. -/
theorem clause?_sound_of {word : Keyword} {α β : Type}
    {parser : List Token → Except GrammarError (β × List Token)} {body : α → List Token}
    {value : α → β} {fits : α → Prop}
    (inside : ∀ {here found rest}, parser here = .ok (found, rest) →
      ∃ phrase, here = body phrase ++ rest ∧ value phrase = found ∧ fits phrase)
    {found : Option β} {rest : List Token}
    (accepted : clause? word parser here = .ok (found, rest)) :
    ∃ clause : Clause word α, here = clause.tokens body ++ rest ∧
      (clause.map fun found => value found.2) = found ∧ ∀ found ∈ clause, fits found.2 := by
  rw [clause?] at accepted
  split at accepted
  · cases accepted
    exact ⟨none, rfl, rfl, by simp⟩
  · next position behind isWord =>
    split at accepted
    · cases accepted
    · next result rest' isBody =>
      cases accepted
      obtain ⟨first, wordSplit, -⟩ := exists_of_keyword? isWord
      obtain ⟨phrase, split, rfl, holds⟩ := inside isBody
      refine ⟨some (first, phrase), ?_, rfl, ?_⟩
      · exact wordSplit.trans (congrArg (first.val :: ·) split)
      · rintro _ ⟨⟩
        exact holds

/-- An accepted clause derives if what it holds does. -/
theorem clause?_sound {word : Keyword} {α β : Type}
    {parser : List Token → Except GrammarError (β × List Token)} {body : α → List Token}
    {value : α → β}
    (inside : ∀ {here found rest}, parser here = .ok (found, rest) →
      ∃ phrase, here = body phrase ++ rest ∧ value phrase = found)
    {found : Option β} {rest : List Token}
    (accepted : clause? word parser here = .ok (found, rest)) :
    ∃ clause : Clause word α, here = clause.tokens body ++ rest ∧
      (clause.map fun found => value found.2) = found := by
  obtain ⟨clause, split, same, -⟩ := clause?_sound_of (fun accepted => by
    obtain ⟨phrase, split, same⟩ := inside accepted
    exact ⟨phrase, split, same, trivial⟩) accepted
  exact ⟨clause, split, same⟩

theorem expectCount_sound {word : Keyword} {found : Nat} {rest : List Token}
    (accepted : forget (expectCount origin word here) = .ok (found, rest)) :
    ∃ count : Leaf Counts, here = countTokens count ++ rest ∧ count.value.toNat = found ∧
      0 ≤ count.value := by
  obtain ⟨shorter, accepted⟩ := forget_eq_ok.mp accepted
  cases here with
  | nil => cases accepted
  | cons token behind =>
    simp only [expectCount] at accepted
    split at accepted
    · next value kind =>
      split at accepted
      · cases accepted
      · next natural =>
        cases accepted
        exact ⟨⟨token, value, kind ▸ .integer value⟩, rfl, rfl, Int.not_lt.mp natural⟩
    · cases accepted

theorem selection_sound {found : Selection} {rest : List Token}
    (accepted : selection origin here = .ok (found, rest)) :
    ∃ phrase : SelectPhrase, here = phrase.tokens ++ rest ∧ phrase.value origin = found := by
  rw [selection] at accepted
  split at accepted
  · next behind isStar =>
    cases accepted
    obtain ⟨star, split⟩ := exists_of_symbol? isStar
    exact ⟨.all star, split, rfl⟩
  · split at accepted
    · cases accepted
    · next names behind isListed =>
      cases accepted
      obtain ⟨listed, split, rfl⟩ := separated_sound path_sound isListed
      exact ⟨.paths listed, split, rfl⟩

theorem exists_of_expectName {fault : GrammarFault} {name : String} {rest : Rest here}
    (found : expectName origin fault here = .ok (name, rest)) :
    ∃ leaf : Leaf Names, here = leaf.token :: rest.val ∧ leaf.value = name := by
  rw [expectName] at found
  split at found
  · next given position behind isName =>
    cases found
    obtain ⟨leaf, split, same, -⟩ := exists_of_name? isName
    exact ⟨leaf, split, same⟩
  · cases found

theorem alias?_sound {found : Option String} {rest : List Token}
    (accepted : alias? origin here = .ok (found, rest)) :
    ∃ phrase : AliasPhrase, here = phrase.tokens ++ rest ∧ phrase.value = found := by
  rw [alias?] at accepted
  split at accepted
  · next position behind isWord =>
    split at accepted
    · cases accepted
    · next name behindName isName =>
      cases accepted
      obtain ⟨word, wordSplit, -⟩ := exists_of_keyword? isWord
      obtain ⟨leaf, split, rfl⟩ := exists_of_expectName isName
      exact ⟨.marked word leaf, wordSplit.trans (congrArg (word.val :: ·) split), rfl⟩
  · split at accepted
    · next name position behind isName =>
      cases accepted
      obtain ⟨leaf, split, rfl, -⟩ := exists_of_name? isName
      exact ⟨.plain leaf, split, rfl⟩
    · cases accepted
      exact ⟨.absent, rfl, rfl⟩

theorem source_sound {found : Source} {rest : List Token}
    (accepted : source origin here = .ok (found, rest)) :
    ∃ (name : Leaf Names) (phrase : AliasPhrase),
      here = name.token :: (phrase.tokens ++ rest) ∧ ⟨name.value, phrase.value⟩ = found := by
  obtain ⟨⟨name, behind⟩, isName, accepted⟩ := bind_eq_ok.mp accepted
  obtain ⟨⟨reference, rest'⟩, isAlias, accepted⟩ := bind_eq_ok.mp accepted
  cases accepted
  obtain ⟨leaf, split, rfl⟩ := exists_of_expectName isName
  obtain ⟨phrase, split', rfl⟩ := alias?_sound isAlias
  exact ⟨leaf, phrase, split.trans (congrArg (leaf.token :: ·) split'), rfl⟩

theorem orderKeys_sound {found : List OrderKey} {rest : List Token}
    (accepted : orderKeys origin here = .ok (found, rest)) :
    ∃ order : OrderPhrase, here = order.tokens ++ rest ∧
      order.keys.items.map (KeyPhrase.value origin) = found := by
  obtain ⟨behind, isWord, accepted⟩ := bind_eq_ok.mp accepted
  obtain ⟨word, wordSplit⟩ := exists_of_expectKeyword isWord
  obtain ⟨shorter, isListed⟩ := forget_eq_ok.mp accepted
  obtain ⟨keys, split, rfl⟩ := separated_sound orderKey_sound isListed
  exact ⟨⟨word, keys⟩, wordSplit.trans (congrArg (word.val :: ·) split), rfl⟩

theorem forget_condition_sound {found : Expr} {rest : List Token}
    (accepted : forget (condition origin here) = .ok (found, rest)) :
    ∃ phrase : Phrase (.level (.joined .or)), here = phrase.tokens ++ rest ∧
      phrase.value origin = found := by
  obtain ⟨shorter, accepted⟩ := forget_eq_ok.mp accepted
  exact condition_sound accepted

/-- **What the parser accepts derives**, and it finds what that stands for. -/
theorem query_sound {tokens : List Token} {found : Query}
    (accepted : query origin tokens = .ok found) :
    ∃ phrase : QueryPhrase, phrase.tokens = tokens ∧ phrase.CountsNonnegative ∧
      phrase.value origin = found := by
  obtain ⟨behindSelect, isSelect, accepted⟩ := bind_eq_ok.mp accepted
  obtain ⟨⟨top, behindTop⟩, isTop, accepted⟩ := bind_eq_ok.mp accepted
  obtain ⟨⟨selection, behindSelection⟩, isSelection, accepted⟩ := bind_eq_ok.mp accepted
  obtain ⟨behindFrom, isFrom, accepted⟩ := bind_eq_ok.mp accepted
  obtain ⟨⟨source, behindSource⟩, isSource, accepted⟩ := bind_eq_ok.mp accepted
  obtain ⟨⟨condition, behindCondition⟩, isCondition, accepted⟩ := bind_eq_ok.mp accepted
  obtain ⟨⟨order, behindOrder⟩, isOrder, accepted⟩ := bind_eq_ok.mp accepted
  obtain ⟨⟨limit, rest⟩, isLimit, accepted⟩ := bind_eq_ok.mp accepted
  cases rest with
  | cons token more => cases accepted
  | nil =>
    cases accepted
    obtain ⟨select, selectSplit⟩ := exists_of_expectKeyword isSelect
    obtain ⟨topClause, topSplit, rfl, topNonnegative⟩ := clause?_sound_of expectCount_sound isTop
    obtain ⟨selectPhrase, selectionSplit, rfl⟩ := selection_sound isSelection
    obtain ⟨word, fromSplit⟩ := exists_of_expectKeyword isFrom
    obtain ⟨name, reference, sourceSplit, rfl⟩ := source_sound isSource
    obtain ⟨conditionClause, conditionSplit, rfl⟩ :=
      clause?_sound forget_condition_sound isCondition
    obtain ⟨orderClause, orderSplit, rfl⟩ := clause?_sound orderKeys_sound isOrder
    obtain ⟨limitClause, limitSplit, rfl, limitNonnegative⟩ :=
      clause?_sound_of expectCount_sound isLimit
    refine ⟨⟨select, topClause, selectPhrase, word, name, reference, conditionClause, orderClause,
      limitClause⟩, ?_, ⟨topNonnegative, limitNonnegative⟩, rfl⟩
    rw [selectSplit, topSplit, selectionSplit, fromSplit, sourceSplit, conditionSplit, orderSplit,
      limitSplit, List.append_nil]
    rfl

end Sound

end Parser

namespace Query

open Grammar

/-- Tokens form a query exactly if they derive one with no negative count. -/
theorem ofTokens_eq_ok {tokens : List Token} {stop : Position} {text : Option (List Char)}
    {found : Query} : ofTokens tokens stop text = .ok found ↔
      ∃ phrase : QueryPhrase, phrase.tokens = tokens ∧ phrase.CountsNonnegative ∧
        phrase.value ⟨stop, text⟩ = found := by
  constructor
  · intro accepted
    rw [ofTokens] at accepted
    split at accepted
    · next query isQuery =>
      cases accepted
      exact Parser.query_sound isQuery
    · cases accepted
  · rintro ⟨phrase, rfl, nonnegative, rfl⟩
    rw [ofTokens, Parser.query_complete _ phrase nonnegative]

/-- A text is read as a query exactly if its tokens derive one with no negative count. -/
theorem readWith_eq_ok {keepText : Bool} {text : List Char} {found : Query} :
    readWith keepText text = .ok found ↔ ∃ (stop : Position) (phrase : QueryPhrase),
      scan text = .ok (phrase.tokens, stop) ∧ phrase.CountsNonnegative ∧
        phrase.value ⟨stop, if keepText then some text else none⟩ = found := by
  unfold readWith
  constructor
  · intro accepted
    split at accepted
    · cases accepted
    · next tokens stop scanned =>
      obtain ⟨phrase, rfl, nonnegative, same⟩ := ofTokens_eq_ok.mp accepted
      exact ⟨stop, phrase, scanned, nonnegative, same⟩
  · rintro ⟨stop, phrase, scanned, nonnegative, same⟩
    rw [scanned]
    exact ofTokens_eq_ok.mpr ⟨phrase, rfl, nonnegative, same⟩

/-- **Tokens form a query exactly if they derive one with no negative count.** They have one
derivation at most, and the query is what it stands for. Any other tokens are ungrammatical. -/
theorem ofTokens_exact (tokens : List Token) (stop : Position) (text : Option (List Char)) :
    (∀ found, ofTokens tokens stop text = .ok found ↔
      ∃ phrase : QueryPhrase, phrase.tokens = tokens ∧ phrase.CountsNonnegative ∧
        phrase.value ⟨stop, text⟩ = found) ∧
    (∀ phrase other : QueryPhrase, phrase.tokens = tokens → other.tokens = tokens →
      phrase = other) ∧
    (∀ error, ofTokens tokens stop text = .error error →
      ∃ fault fragment, error = .grammar fault fragment) := by
  refine ⟨fun found => ofTokens_eq_ok, fun phrase other split split' => ?_, fun error refused => ?_⟩
  · exact QueryPhrase.unique (split.trans split'.symm)
  · rw [ofTokens] at refused
    split at refused
    · cases refused
    · cases refused
      exact ⟨_, _, rfl⟩

end Query

end DocQuery
