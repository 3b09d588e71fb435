/-
**No query has two derivations.**

* `Phrase.unique`: a phrase is determined by its tokens, also when other tokens that do not continue
  it stand behind them;
* `QueryPhrase.unique`: the tokens of a query determine its derivation.
-/

import DocQuery.Proofs.Query.Grammar

namespace DocQuery

namespace Grammar

/-! ### Uniqueness -/

theorem Level.Stops.not_dot {level : Level} {token : Token} {rest : List Token}
    (stops : level.Stops (token :: rest)) : ¬ IsSymbol .dot token.kind := by
  rintro ⟨spelling, kind⟩
  have := stops_cons.mp stops 0 (by simp [kind, continuedFrom?])
  omega

theorem Level.Stops.not_opening {level : Level} {token : Token} {rest : List Token}
    (stops : level.Stops (token :: rest)) : ¬ IsSymbol .leftParen token.kind := by
  rintro ⟨spelling, kind⟩
  have := stops_cons.mp stops 0 (by simp [kind, continuedFrom?])
  omega

/-- The names behind the first one are determined by the tokens. -/
theorem segments_unique {segments others : List Segment} {rest rest' : List Token}
    (same : segments.flatMap Segment.tokens ++ rest = others.flatMap Segment.tokens ++ rest')
    (stops : Level.operand.Stops rest) (stops' : Level.operand.Stops rest') :
    segments = others ∧ rest = rest' := by
  induction segments generalizing others with
  | nil =>
    cases others with
    | nil => exact ⟨rfl, same⟩
    | cons other more =>
      obtain rfl : rest = other.dot.val :: other.name :: (more.flatMap Segment.tokens ++ rest') :=
        same
      exact absurd other.dot.property stops.not_dot
  | cons segment more ih =>
    cases others with
    | nil =>
      obtain rfl : segment.dot.val :: segment.name :: (more.flatMap Segment.tokens ++ rest) =
        rest' := same
      exact absurd segment.dot.property stops'.not_dot
    | cons other more' =>
      obtain ⟨dot, name, fits⟩ := segment
      obtain ⟨dot', name', fits'⟩ := other
      simp only [List.flatMap_cons, Segment.tokens, List.cons_append, List.nil_append,
        List.cons.injEq] at same
      obtain ⟨sameDot, rfl, behind⟩ := same
      obtain ⟨rfl, rfl⟩ := ih behind
      obtain rfl : dot = dot' := Subtype.ext sameDot
      exact ⟨rfl, rfl⟩

theorem Path.unique {path other : Path} {rest rest' : List Token}
    (same : path.tokens ++ rest = other.tokens ++ rest') (stops : Level.operand.Stops rest)
    (stops' : Level.operand.Stops rest') : path = other ∧ rest = rest' := by
  obtain ⟨first, more⟩ := path
  obtain ⟨first', more'⟩ := other
  simp only [Path.tokens, List.cons_append, List.cons.injEq] at same
  obtain ⟨rfl, rfl⟩ := segments_unique same.2 stops stops'
  obtain rfl : first = first' := Leaf.eq_of_token same.1
  exact ⟨rfl, rfl⟩

/-- Behind the names of a path there is no opening parenthesis. -/
theorem segments_ne_opening {segments : List Segment} {rest more : List Token} {opening : Token}
    (stops : Level.operand.Stops rest)
    (same : segments.flatMap Segment.tokens ++ rest = opening :: more) :
    ¬ IsSymbol .leftParen opening.kind := by
  cases segments with
  | nil =>
    obtain rfl : rest = opening :: more := same
    exact stops.not_opening
  | cons segment others =>
    simp only [List.flatMap_cons, Segment.tokens, List.cons_append, List.cons.injEq] at same
    obtain ⟨spelling, kind⟩ := segment.dot.property
    rintro ⟨spelling', kind'⟩
    rw [← same.1, kind] at kind'
    cases kind'

theorem Level.Stops.not_junction {junction : Junction} {token : Token} {rest : List Token}
    (stops : (Level.joined junction).Stops (token :: rest)) :
    ¬ IsKeyword junction.keyword token.kind := by
  rintro ⟨spelling, kind⟩
  cases junction with
  | or =>
    have := stops_cons.mp stops 4 (by simp [kind, Junction.keyword, continuedFrom?])
    simp [reach] at this
  | and =>
    have := stops_cons.mp stops 3 (by simp [kind, Junction.keyword, continuedFrom?])
    simp [reach] at this

theorem Level.Stops.not_compares {token : Token} {operator : Operator} {rest : List Token}
    (stops : Level.comparison.Stops (token :: rest)) : ¬ Compares token.kind operator := by
  intro compares
  have beyond := stops_cons.mp stops 2
  generalize token.kind = kind at compares beyond
  cases compares <;> simp [continuedFrom?, reach] at beyond

theorem Level.Stops.not_between {token : Token} {rest : List Token}
    (stops : Level.ranged.Stops (token :: rest)) : ¬ IsKeyword .between token.kind := by
  rintro ⟨spelling, kind⟩
  have := stops_cons.mp stops 1 (by simp [kind, continuedFrom?])
  simp [reach] at this

/-- Further operands do not continue the operand in front of them. -/
theorem Phrase.stops_further {junction : Junction} (more : Phrase (.further junction))
    {rest : List Token} (stops : (Level.joined junction).Stops rest) :
    junction.part.Stops (more.tokens ++ rest) := by
  cases more with
  | finished => exact stops.mono (Level.reach_part junction)
  | further word next more => exact Level.stops_junction junction word.property

/-- Neither a comma nor a closing parenthesis continues the argument in front of it. -/
theorem Phrase.stops_moreArguments (more : Phrase .moreArguments) {rest : List Token}
    (stops : Category.moreArguments.Stops rest) :
    (Level.joined .or).Stops (more.tokens ++ rest) := by
  cases more with
  | noFurtherArgument =>
    obtain ⟨closing, behind, rfl, isClosing⟩ := stops
    exact Level.stops_closing isClosing
  | furtherArgument comma next more => exact Level.stops_comma comma.property

/-- Two operands that begin with the same token begin in the same way. -/
theorem Phrase.lead_unique {phrase other : Phrase (.level .operand)} {rest rest' : List Token}
    (same : phrase.tokens ++ rest = other.tokens ++ rest') : phrase.lead = other.lead := by
  obtain ⟨head, more, tokens, lead⟩ := phrase.exists_lead
  obtain ⟨head', more', tokens', lead'⟩ := other.exists_lead
  rw [tokens, tokens', List.cons_append, List.cons_append, List.cons.injEq] at same
  rw [same.1, lead'] at lead
  exact (Option.some.inj lead).symm

/-- An operand does not begin with a negation. -/
theorem Phrase.operand_ne_not {phrase : Phrase (.level .operand)} {word : Token}
    {rest rest' : List Token} (same : phrase.tokens ++ rest = word :: rest') :
    ¬ IsKeyword .not word.kind := by
  obtain ⟨head, more, tokens, lead⟩ := phrase.exists_lead
  rw [tokens, List.cons_append, List.cons.injEq] at same
  intro isWord
  rw [same.1, isWord.lead] at lead
  cases lead

/-- A condition does not begin with a closing parenthesis. -/
theorem Phrase.level_ne_closing {level : Level} {phrase : Phrase (.level level)} {closing : Token}
    {rest rest' : List Token} (same : phrase.tokens ++ rest = closing :: rest') :
    ¬ IsSymbol .rightParen closing.kind := by
  obtain ⟨head, more, tokens, begins⟩ := phrase.exists_head _ rfl
  rw [tokens, List.cons_append, List.cons.injEq] at same
  rintro ⟨spelling, kind⟩
  rw [same.1] at begins
  rcases begins.weaken with operand | ⟨spelling', kind'⟩
  · simp [kind, lead?] at operand
  · rw [kind] at kind'
    cases kind'

/-- **A phrase is determined by its tokens**, also when other tokens that do not continue it stand
behind them. -/
theorem Phrase.unique {category : Category} (phrase other : Phrase category)
    {rest rest' : List Token} (same : phrase.tokens ++ rest = other.tokens ++ rest')
    (stops : category.Stops rest) (stops' : category.Stops rest') :
    phrase = other ∧ rest = rest' := by
  induction phrase generalizing rest rest' with
  | joined first more ihFirst ihMore =>
    cases other with
    | joined first' more' =>
      simp only [tokens, List.append_assoc] at same
      obtain ⟨rfl, behind⟩ := ihFirst _ same (more.stops_further stops) (more'.stops_further stops')
      obtain ⟨rfl, rfl⟩ := ihMore _ behind stops stops'
      exact ⟨rfl, rfl⟩
  | finished =>
    cases other with
    | finished => exact ⟨rfl, same⟩
    | further word next more =>
      obtain rfl : rest = word.val :: (next.tokens ++ more.tokens ++ rest') := same
      exact absurd word.property (Level.Stops.not_junction stops)
  | further word next more ihNext ihMore =>
    cases other with
    | finished =>
      obtain rfl : word.val :: (next.tokens ++ more.tokens ++ rest) = rest' := same
      exact absurd word.property (Level.Stops.not_junction stops')
    | further word' next' more' =>
      simp only [tokens, List.cons_append, List.append_assoc, List.cons.injEq] at same
      obtain rfl : word = word' := Subtype.ext same.1
      obtain ⟨rfl, behind⟩ := ihNext _ same.2 (more.stops_further stops)
        (more'.stops_further stops')
      obtain ⟨rfl, rfl⟩ := ihMore _ behind stops stops'
      exact ⟨rfl, rfl⟩
  | single inner ih =>
    cases other with
    | single inner' =>
      obtain ⟨rfl, rfl⟩ := ih _ same (stops.mono (by decide)) (stops'.mono (by decide))
      exact ⟨rfl, rfl⟩
    | compared left operator right =>
      simp only [tokens, List.append_assoc, List.cons_append] at same
      obtain ⟨-, rfl⟩ := ih _ same (stops.mono (by decide)) (Level.stops_compares operator.fits)
      exact absurd operator.fits (Level.Stops.not_compares stops)
  | compared left operator right ihLeft ihRight =>
    cases other with
    | single inner =>
      simp only [tokens, List.append_assoc, List.cons_append] at same
      obtain ⟨-, rfl⟩ := ihLeft _ same (Level.stops_compares operator.fits)
        (stops'.mono (by decide))
      exact absurd operator.fits (Level.Stops.not_compares stops')
    | compared left' operator' right' =>
      simp only [tokens, List.append_assoc, List.cons_append] at same
      obtain ⟨rfl, behind⟩ := ihLeft _ same (Level.stops_compares operator.fits)
        (Level.stops_compares operator'.fits)
      simp only [List.cons.injEq] at behind
      obtain rfl : operator = operator' := Leaf.eq_of_token behind.1
      obtain ⟨rfl, rfl⟩ := ihRight _ behind.2 (stops.mono (by decide)) (stops'.mono (by decide))
      exact ⟨rfl, rfl⟩
  | plain inner ih =>
    cases other with
    | plain inner' =>
      obtain ⟨rfl, rfl⟩ := ih _ same (stops.mono (by decide)) (stops'.mono (by decide))
      exact ⟨rfl, rfl⟩
    | between inner' word lower joint upper =>
      simp only [tokens, List.append_assoc, List.cons_append] at same
      obtain ⟨-, rfl⟩ := ih _ same (stops.mono (by decide)) (Level.stops_between word.property)
      exact absurd word.property (Level.Stops.not_between stops)
  | between inner word lower joint upper ihInner ihLower ihUpper =>
    cases other with
    | plain inner' =>
      simp only [tokens, List.append_assoc, List.cons_append] at same
      obtain ⟨-, rfl⟩ := ihInner _ same (Level.stops_between word.property)
        (stops'.mono (by decide))
      exact absurd word.property (Level.Stops.not_between stops')
    | between inner' word' lower' joint' upper' =>
      simp only [tokens, List.append_assoc, List.cons_append] at same
      obtain ⟨rfl, behind⟩ := ihInner _ same (Level.stops_between word.property)
        (Level.stops_between word'.property)
      simp only [List.cons.injEq] at behind
      obtain rfl : word = word' := Subtype.ext behind.1
      obtain ⟨rfl, last⟩ := ihLower _ behind.2 (Level.stops_and joint.property)
        (Level.stops_and joint'.property)
      simp only [List.cons.injEq] at last
      obtain rfl : joint = joint' := Subtype.ext last.1
      obtain ⟨rfl, rfl⟩ := ihUpper _ last.2 (stops.mono (by decide)) (stops'.mono (by decide))
      exact ⟨rfl, rfl⟩
  | positive inner ih =>
    cases other with
    | positive inner' =>
      obtain ⟨rfl, rfl⟩ := ih _ same (stops.mono (by decide)) (stops'.mono (by decide))
      exact ⟨rfl, rfl⟩
    | not word inner' => exact absurd word.property (Phrase.operand_ne_not same)
  | not word inner ih =>
    cases other with
    | positive inner' => exact absurd word.property (Phrase.operand_ne_not same.symm)
    | not word' inner' =>
      simp only [tokens, List.cons_append, List.cons.injEq] at same
      obtain rfl : word = word' := Subtype.ext same.1
      obtain ⟨rfl, rfl⟩ := ih _ same.2 stops stops'
      exact ⟨rfl, rfl⟩
  | literal leaf =>
    have lead := Phrase.lead_unique same
    cases other with
    | literal leaf' =>
      simp only [tokens, List.cons_append, List.cons.injEq] at same
      obtain rfl : leaf = leaf' := Leaf.eq_of_token same.1
      exact ⟨rfl, same.2⟩
    | _ => cases lead
  | parameter leaf =>
    have lead := Phrase.lead_unique same
    cases other with
    | parameter leaf' =>
      simp only [tokens, List.cons_append, List.cons.injEq] at same
      obtain rfl : leaf = leaf' := Leaf.eq_of_token same.1
      exact ⟨rfl, same.2⟩
    | _ => cases lead
  | property path =>
    have lead := Phrase.lead_unique same
    cases other with
    | property path' =>
      obtain ⟨rfl, rfl⟩ := Path.unique same stops stops'
      exact ⟨rfl, rfl⟩
    | call name opening given closing =>
      simp only [tokens, Path.tokens, List.cons_append, List.cons.injEq] at same
      exact absurd opening.property (segments_ne_opening stops same.2)
    | _ => cases lead
  | call name opening given closing ih =>
    have lead := Phrase.lead_unique same
    cases other with
    | property path =>
      simp only [tokens, Path.tokens, List.cons_append, List.cons.injEq] at same
      exact absurd opening.property (segments_ne_opening stops' same.2.symm)
    | call name' opening' given' closing' =>
      simp only [tokens, List.cons_append, List.append_assoc, List.nil_append,
        List.cons.injEq] at same
      obtain rfl : name = name' := Leaf.eq_of_token same.1
      obtain rfl : opening = opening' := Subtype.ext same.2.1
      obtain ⟨rfl, behind⟩ := ih _ same.2.2 ⟨_, _, rfl, closing.property⟩
        ⟨_, _, rfl, closing'.property⟩
      simp only [List.cons.injEq] at behind
      obtain rfl : closing = closing' := Subtype.ext behind.1
      exact ⟨rfl, behind.2⟩
    | _ => cases lead
  | group opening inner closing ih =>
    have lead := Phrase.lead_unique same
    cases other with
    | group opening' inner' closing' =>
      simp only [tokens, List.cons_append, List.append_assoc, List.nil_append,
        List.cons.injEq] at same
      obtain rfl : opening = opening' := Subtype.ext same.1
      obtain ⟨rfl, behind⟩ := ih _ same.2 (Level.stops_closing closing.property)
        (Level.stops_closing closing'.property)
      simp only [List.cons.injEq] at behind
      obtain rfl : closing = closing' := Subtype.ext behind.1
      exact ⟨rfl, behind.2⟩
    | _ => cases lead
  | noArguments =>
    cases other with
    | noArguments => exact ⟨rfl, same⟩
    | someArguments first more =>
      obtain ⟨closing, behind, rfl, isClosing⟩ := stops
      simp only [tokens, List.nil_append, List.append_assoc] at same
      exact absurd isClosing (Phrase.level_ne_closing same.symm)
  | someArguments first more ihFirst ihMore =>
    cases other with
    | noArguments =>
      obtain ⟨closing, behind, rfl, isClosing⟩ := stops'
      simp only [tokens, List.nil_append, List.append_assoc] at same
      exact absurd isClosing (Phrase.level_ne_closing same)
    | someArguments first' more' =>
      simp only [tokens, List.append_assoc] at same
      obtain ⟨rfl, behind⟩ := ihFirst _ same (more.stops_moreArguments stops)
        (more'.stops_moreArguments stops')
      obtain ⟨rfl, rfl⟩ := ihMore _ behind stops stops'
      exact ⟨rfl, rfl⟩
  | noFurtherArgument =>
    cases other with
    | noFurtherArgument => exact ⟨rfl, same⟩
    | furtherArgument comma next more =>
      obtain ⟨closing, behind, rfl, ⟨spelling, kind⟩⟩ := stops
      obtain ⟨spelling', kind'⟩ := comma.property
      simp only [tokens, List.nil_append, List.cons_append, List.cons.injEq] at same
      rw [same.1, kind'] at kind
      cases kind
  | furtherArgument comma next more ihNext ihMore =>
    cases other with
    | noFurtherArgument =>
      obtain ⟨closing, behind, rfl, ⟨spelling, kind⟩⟩ := stops'
      obtain ⟨spelling', kind'⟩ := comma.property
      simp only [tokens, List.nil_append, List.cons_append, List.cons.injEq] at same
      rw [← same.1, kind'] at kind
      cases kind
    | furtherArgument comma' next' more' =>
      simp only [tokens, List.cons_append, List.append_assoc, List.cons.injEq] at same
      obtain rfl : comma = comma' := Subtype.ext same.1
      obtain ⟨rfl, behind⟩ := ihNext _ same.2 (more.stops_moreArguments stops)
        (more'.stops_moreArguments stops')
      obtain ⟨rfl, rfl⟩ := ihMore _ behind stops stops'
      exact ⟨rfl, rfl⟩

/-! ### Clauses -/

/-- Some tokens are none, or begin with one of the given keywords. -/
def Opens (words : List Keyword) (rest : List Token) : Prop :=
  ∀ token ∈ rest.head?, ∃ word ∈ words, IsKeyword word token.kind

namespace Opens

theorem nil (words : List Keyword) : Opens words [] := by simp [Opens]

theorem cons {word : Keyword} {words : List Keyword} (member : word ∈ words) (first : Word word)
    (rest : List Token) : Opens words (first.val :: rest) := by
  intro token found
  obtain rfl : first.val = token := by simpa using found
  exact ⟨word, member, first.property⟩

/-- A clause that may be left out, in front of other clauses. -/
theorem clause {word : Keyword} {words : List Keyword} {α : Type} (body : α → List Token)
    (found : Clause word α) {rest : List Token} (opens : Opens words rest) :
    Opens (word :: words) (found.tokens body ++ rest) := by
  cases found with
  | none =>
    intro token first
    obtain ⟨other, member, isOther⟩ := opens token first
    exact ⟨other, List.mem_cons_of_mem _ member, isOther⟩
  | some pair => exact cons (List.mem_cons_self ..) pair.1 _

variable {words : List Keyword} {token : Token} {rest : List Token}

/-- A keyword that begins none of the clauses does not come next. -/
theorem absent {word : Keyword} {rest : List Token} (opens : Opens words rest)
    (other : word ∉ words) : ∀ token ∈ rest.head?, ¬ IsKeyword word token.kind := by
  rintro token first ⟨spelling, kind⟩
  obtain ⟨word', member, ⟨spelling', kind'⟩⟩ := opens token first
  rw [kind] at kind'
  cases kind'
  exact other member

theorem comma {rest : List Token} (opens : Opens words rest) :
    ∀ token ∈ rest.head?, ¬ IsSymbol .comma token.kind := by
  rintro token first ⟨spelling, kind⟩
  obtain ⟨word, _, ⟨spelling', kind'⟩⟩ := opens token first
  rw [kind] at kind'
  cases kind'

theorem not_names {name : String} (opens : Opens words (token :: rest)) :
    ¬ Names token.kind name := by
  intro names
  obtain ⟨other, _, ⟨spelling', kind'⟩⟩ := opens token rfl
  rw [kind'] at names
  cases names

/-- The keywords that begin clauses continue no condition. -/
theorem stops {rest : List Token} (opens : Opens words rest)
    (clauses : ∀ word ∈ words, ∀ spelling, continuedFrom? (.keyword word spelling) = none)
    (level : Level) : level.Stops rest := by
  intro token first least continued
  obtain ⟨word, member, ⟨spelling, kind⟩⟩ := opens token first
  rw [kind, clauses word member] at continued
  cases continued

end Opens

/-- A clause is determined by the tokens if what stands behind its keyword is. -/
theorem Clause.unique {word : Keyword} {α : Type} {body : α → List Token}
    {clause other : Clause word α} {rest rest' : List Token}
    (same : clause.tokens body ++ rest = other.tokens body ++ rest')
    (absent : ∀ token ∈ rest.head?, ¬ IsKeyword word token.kind)
    (absent' : ∀ token ∈ rest'.head?, ¬ IsKeyword word token.kind)
    (inside : ∀ found found', body found ++ rest = body found' ++ rest' →
      found = found' ∧ rest = rest') : clause = other ∧ rest = rest' := by
  cases clause with
  | none =>
    cases other with
    | none => exact ⟨rfl, same⟩
    | some pair =>
      obtain rfl : rest = pair.1.val :: (body pair.2 ++ rest') := same
      exact absurd pair.1.property (absent _ rfl)
  | some pair =>
    cases other with
    | none =>
      obtain rfl : pair.1.val :: (body pair.2 ++ rest) = rest' := same
      exact absurd pair.1.property (absent' _ rfl)
    | some pair' =>
      obtain ⟨first, found⟩ := pair
      obtain ⟨first', found'⟩ := pair'
      simp only [Clause.tokens, List.cons_append, List.cons.injEq] at same
      obtain rfl : first = first' := Subtype.ext same.1
      obtain ⟨rfl, rfl⟩ := inside _ _ same.2
      exact ⟨rfl, rfl⟩

/-- A count is determined by its token. -/
theorem count_unique {count other : Leaf Counts} {rest rest' : List Token}
    (same : countTokens count ++ rest = countTokens other ++ rest') :
    count = other ∧ rest = rest' := by
  simp only [countTokens, List.cons_append, List.cons.injEq] at same
  exact ⟨Leaf.eq_of_token same.1, same.2⟩

/-- Items with commas between them are determined by their tokens if each item is, in front of
tokens with a given property. -/
theorem Separated.unique {α : Type} {item : α → List Token} (behind : List Token → Prop)
    (inside : ∀ {found found' rest rest'}, item found ++ rest = item found' ++ rest' →
      behind rest → behind rest' → found = found' ∧ rest = rest')
    (comma : ∀ (comma : Mark .comma) rest, behind (comma.val :: rest))
    {items others : Separated α} {rest rest' : List Token}
    (same : items.tokens item ++ rest = others.tokens item ++ rest')
    (last : behind rest) (last' : behind rest')
    (free : ∀ token ∈ rest.head?, ¬ IsSymbol .comma token.kind)
    (free' : ∀ token ∈ rest'.head?, ¬ IsSymbol .comma token.kind) :
    items = others ∧ rest = rest' := by
  have behindMore : ∀ (more : List (Mark .comma × α)) {rest}, behind rest →
      behind ((more.flatMap fun next => next.1.val :: item next.2) ++ rest) := by
    intro more rest last
    cases more with
    | nil => exact last
    | cons next more => exact comma next.1 _
  obtain ⟨first, more⟩ := items
  obtain ⟨first', more'⟩ := others
  simp only [tokens, List.append_assoc] at same
  obtain ⟨rfl, tail⟩ := inside same (behindMore more last) (behindMore more' last')
  suffices equal : more = more' ∧ rest = rest' by
    obtain ⟨rfl, rfl⟩ := equal
    exact ⟨rfl, rfl⟩
  clear same
  induction more generalizing more' with
  | nil =>
    cases more' with
    | nil => exact ⟨rfl, tail⟩
    | cons next others =>
      refine absurd next.1.property (free next.1.val ?_)
      rw [show rest = _ from tail]
      rfl
  | cons next more ih =>
    cases more' with
    | nil =>
      refine absurd next.1.property (free' next.1.val ?_)
      rw [show rest' = _ from tail.symm]
      rfl
    | cons next' more' =>
      obtain ⟨sign, found⟩ := next
      obtain ⟨sign', found'⟩ := next'
      simp only [List.flatMap_cons, List.cons_append, List.append_assoc, List.cons.injEq] at tail
      obtain rfl : sign = sign' := Subtype.ext tail.1
      obtain ⟨rfl, further⟩ := inside tail.2 (behindMore more last) (behindMore more' last')
      obtain ⟨rfl, rfl⟩ := ih more' further
      exact ⟨rfl, rfl⟩

/-! ### Order -/

/-- The first of some tokens continues no key of the order. -/
structure EndsKey (rest : List Token) : Prop where
  stops : Level.operand.Stops rest
  unmarked : ∀ token ∈ rest.head?, ¬ IsKeyword .asc token.kind ∧ ¬ IsKeyword .desc token.kind

theorem endsKey_comma (comma : Mark .comma) (rest : List Token) : EndsKey (comma.val :: rest) := by
  refine ⟨Level.stops_comma comma.property, fun token first => ?_⟩
  obtain rfl : comma.val = token := by simpa using first
  obtain ⟨spelling, kind⟩ := comma.property
  refine ⟨?_, ?_⟩ <;>
  · rintro ⟨spelling', kind'⟩
    rw [kind] at kind'
    cases kind'

/-- A direction does not continue the path in front of it. -/
theorem Direction.stops (direction : Direction) {rest : List Token} (ends : EndsKey rest) :
    Level.operand.Stops (direction.tokens ++ rest) := by
  cases direction with
  | unmarked => exact ends.stops
  | ascending word | descending word =>
    obtain ⟨spelling, kind⟩ := word.property
    exact Level.stops_cons.mpr (by simp [kind, continuedFrom?])

theorem Direction.unique {direction other : Direction} {rest rest' : List Token}
    (same : direction.tokens ++ rest = other.tokens ++ rest') (ends : EndsKey rest)
    (ends' : EndsKey rest') : direction = other ∧ rest = rest' := by
  cases direction with
  | unmarked =>
    cases other with
    | unmarked => exact ⟨rfl, same⟩
    | ascending word =>
      obtain rfl : rest = word.val :: rest' := same
      exact absurd word.property (ends.unmarked _ rfl).1
    | descending word =>
      obtain rfl : rest = word.val :: rest' := same
      exact absurd word.property (ends.unmarked _ rfl).2
  | ascending word =>
    cases other with
    | unmarked =>
      obtain rfl : word.val :: rest = rest' := same
      exact absurd word.property (ends'.unmarked _ rfl).1
    | ascending word' =>
      simp only [tokens, List.cons_append, List.nil_append, List.cons.injEq] at same
      obtain rfl : word = word' := Subtype.ext same.1
      exact ⟨rfl, same.2⟩
    | descending word' =>
      simp only [tokens, List.cons_append, List.nil_append, List.cons.injEq] at same
      obtain ⟨spelling, kind⟩ := word.property
      obtain ⟨spelling', kind'⟩ := word'.property
      rw [← same.1, kind] at kind'
      cases kind'
  | descending word =>
    cases other with
    | unmarked =>
      obtain rfl : word.val :: rest = rest' := same
      exact absurd word.property (ends'.unmarked _ rfl).2
    | ascending word' =>
      simp only [tokens, List.cons_append, List.nil_append, List.cons.injEq] at same
      obtain ⟨spelling, kind⟩ := word.property
      obtain ⟨spelling', kind'⟩ := word'.property
      rw [← same.1, kind] at kind'
      cases kind'
    | descending word' =>
      simp only [tokens, List.cons_append, List.nil_append, List.cons.injEq] at same
      obtain rfl : word = word' := Subtype.ext same.1
      exact ⟨rfl, same.2⟩

theorem KeyPhrase.unique {key other : KeyPhrase} {rest rest' : List Token}
    (same : key.tokens ++ rest = other.tokens ++ rest') (ends : EndsKey rest)
    (ends' : EndsKey rest') : key = other ∧ rest = rest' := by
  obtain ⟨path, direction⟩ := key
  obtain ⟨path', direction'⟩ := other
  simp only [tokens, List.append_assoc] at same
  obtain ⟨rfl, behind⟩ := Path.unique same (direction.stops ends) (direction'.stops ends')
  obtain ⟨rfl, rfl⟩ := Direction.unique behind ends ends'
  exact ⟨rfl, rfl⟩

/-! ### Queries -/

/-- The keywords that begin the clauses behind the collection. -/
def closingWords : List Keyword := [.where, .order, .limit]

theorem Opens.endsKey {words : List Keyword} {rest : List Token} (opens : Opens words rest)
    (clauses : ∀ word ∈ words, word ∈ closingWords) : EndsKey rest := by
  have other : ∀ word, word ∉ closingWords → word ∉ words :=
    fun word no member => no (clauses word member)
  refine ⟨opens.stops (fun word member spelling => ?_) _, fun token first =>
    ⟨opens.absent (other .asc (by decide)) token first,
      opens.absent (other .desc (by decide)) token first⟩⟩
  have closing := clauses word member
  revert closing
  cases word <;> simp [closingWords, continuedFrom?]

theorem OrderPhrase.unique {order other : OrderPhrase} {rest rest' : List Token}
    (same : order.tokens ++ rest = other.tokens ++ rest') (opens : Opens [.limit] rest)
    (opens' : Opens [.limit] rest') : order = other ∧ rest = rest' := by
  obtain ⟨word, keys⟩ := order
  obtain ⟨word', keys'⟩ := other
  simp only [tokens, List.cons_append, List.cons.injEq] at same
  obtain rfl : word = word' := Subtype.ext same.1
  obtain ⟨rfl, rfl⟩ := Separated.unique EndsKey KeyPhrase.unique endsKey_comma same.2
    (opens.endsKey (by decide)) (opens'.endsKey (by decide)) opens.comma opens'.comma
  exact ⟨rfl, rfl⟩

theorem AliasPhrase.unique {reference other : AliasPhrase} {rest rest' : List Token}
    (same : reference.tokens ++ rest = other.tokens ++ rest') (opens : Opens closingWords rest)
    (opens' : Opens closingWords rest') : reference = other ∧ rest = rest' := by
  cases reference with
  | absent =>
    cases other with
    | absent => exact ⟨rfl, same⟩
    | plain name =>
      obtain rfl : rest = name.token :: rest' := same
      exact absurd name.fits opens.not_names
    | marked word name =>
      obtain rfl : rest = word.val :: name.token :: rest' := same
      exact absurd word.property (opens.absent (by decide) _ rfl)
  | plain name =>
    cases other with
    | absent =>
      obtain rfl : name.token :: rest = rest' := same
      exact absurd name.fits opens'.not_names
    | plain name' =>
      simp only [tokens, List.cons_append, List.nil_append, List.cons.injEq] at same
      obtain rfl : name = name' := Leaf.eq_of_token same.1
      exact ⟨rfl, same.2⟩
    | marked word name' =>
      simp only [tokens, List.cons_append, List.nil_append, List.cons.injEq] at same
      have lead := name.fits.lead
      rw [same.1, word.property.lead] at lead
      cases lead
  | marked word name =>
    cases other with
    | absent =>
      obtain rfl : word.val :: name.token :: rest = rest' := same
      exact absurd word.property (opens'.absent (by decide) _ rfl)
    | plain name' =>
      simp only [tokens, List.cons_append, List.nil_append, List.cons.injEq] at same
      have lead := name'.fits.lead
      rw [← same.1, word.property.lead] at lead
      cases lead
    | marked word' name' =>
      simp only [tokens, List.cons_append, List.nil_append, List.cons.injEq] at same
      obtain rfl : word = word' := Subtype.ext same.1
      obtain rfl : name = name' := Leaf.eq_of_token same.2.1
      exact ⟨rfl, same.2.2⟩

/-- The keyword behind what is selected continues no path. -/
theorem stops_from {word : Token} {rest : List Token} (isWord : IsKeyword .from word.kind) :
    Level.operand.Stops (word :: rest) := by
  obtain ⟨spelling, kind⟩ := isWord
  exact Level.stops_cons.mpr (by simp [kind, continuedFrom?])

theorem SelectPhrase.unique {selection other : SelectPhrase} {word word' : Word .from}
    {rest rest' : List Token}
    (same : selection.tokens ++ word.val :: rest = other.tokens ++ word'.val :: rest') :
    selection = other ∧ word.val :: rest = word'.val :: rest' := by
  have star_ne_name : ∀ {star : Mark .star} {name : Leaf Names}, star.val ≠ name.token := by
    intro star name equal
    obtain ⟨spelling, kind⟩ := star.property
    have names := name.fits
    rw [← equal, kind] at names
    cases names
  have free : ∀ (word : Word .from) (rest : List Token),
      ∀ token ∈ (word.val :: rest).head?, ¬ IsSymbol .comma token.kind := by
    rintro word rest token first ⟨spelling, kind⟩
    obtain rfl : word.val = token := by simpa using first
    obtain ⟨spelling', kind'⟩ := word.property
    rw [kind] at kind'
    cases kind'
  cases selection with
  | all star =>
    cases other with
    | all star' =>
      simp only [tokens, List.cons_append, List.nil_append, List.cons.injEq] at same
      obtain rfl : star = star' := Subtype.ext same.1
      exact ⟨rfl, by simpa using same.2⟩
    | paths listed =>
      simp only [tokens, Separated.tokens, Path.tokens, List.cons_append, List.nil_append,
        List.append_assoc, List.cons.injEq] at same
      exact absurd same.1 star_ne_name
  | paths listed =>
    cases other with
    | all star =>
      simp only [tokens, Separated.tokens, Path.tokens, List.cons_append, List.nil_append,
        List.append_assoc, List.cons.injEq] at same
      exact absurd same.1.symm star_ne_name
    | paths listed' =>
      obtain ⟨rfl, behind⟩ := Separated.unique Level.operand.Stops Path.unique
        (fun comma _ => Level.stops_comma comma.property) same (stops_from word.property)
        (stops_from word'.property) (free word rest) (free word' rest')
      exact ⟨rfl, behind⟩

/-- What is selected does not begin with the keyword of a clause. -/
theorem SelectPhrase.ne_keyword {selection : SelectPhrase} {token : Token} {word : Keyword}
    {rest rest' : List Token} (same : selection.tokens ++ rest = token :: rest') :
    ¬ IsKeyword word token.kind := by
  rintro ⟨spelling, kind⟩
  cases selection with
  | all star =>
    simp only [tokens, List.cons_append, List.cons.injEq] at same
    obtain ⟨spelling', kind'⟩ := star.property
    rw [same.1, kind] at kind'
    cases kind'
  | paths listed =>
    simp only [tokens, Separated.tokens, Path.tokens, List.cons_append, List.cons.injEq] at same
    have names := listed.first.first.fits
    rw [same.1, kind] at names
    cases names

/-- The clauses behind the collection are determined by their tokens. -/
theorem QueryPhrase.closing_unique {phrase other : QueryPhrase}
    (same : phrase.closingTokens = other.closingTokens) :
    phrase.condition = other.condition ∧ phrase.order = other.order ∧
      phrase.limit = other.limit := by
  have limitOpens : ∀ clause : Clause .limit (Leaf Counts),
      Opens [.limit] (clause.tokens countTokens ++ []) :=
    fun clause => Opens.clause countTokens clause (Opens.nil [])
  have orderOpens : ∀ (clause : Clause .order OrderPhrase) (limit : Clause .limit (Leaf Counts)),
      Opens [.order, .limit]
        (clause.tokens OrderPhrase.tokens ++ (limit.tokens countTokens ++ [])) :=
    fun clause limit => Opens.clause OrderPhrase.tokens clause (limitOpens limit)
  simp only [closingTokens] at same
  rw [← List.append_nil (phrase.limit.tokens countTokens),
    ← List.append_nil (other.limit.tokens countTokens)] at same
  obtain ⟨conditions, behind⟩ := Clause.unique same ((orderOpens _ _).absent (by decide))
    ((orderOpens _ _).absent (by decide)) fun found found' equal => Phrase.unique found found' equal
      ((orderOpens _ _).stops (by simp [continuedFrom?]) _)
      ((orderOpens _ _).stops (by simp [continuedFrom?]) _)
  obtain ⟨orders, behind⟩ := Clause.unique behind ((limitOpens _).absent (by decide))
    ((limitOpens _).absent (by decide)) fun found found' equal =>
      OrderPhrase.unique equal (limitOpens _) (limitOpens _)
  obtain ⟨limits, -⟩ := Clause.unique behind ((Opens.nil []).absent (by decide))
    ((Opens.nil []).absent (by decide)) fun found found' equal => count_unique equal
  exact ⟨conditions, orders, limits⟩

theorem QueryPhrase.opens_closingTokens (phrase : QueryPhrase) :
    Opens closingWords phrase.closingTokens := by
  refine Opens.clause _ _ (Opens.clause _ _ ?_)
  rw [← List.append_nil (phrase.limit.tokens countTokens)]
  exact Opens.clause _ _ (Opens.nil [])

/-- **The tokens of a query determine its derivation.** -/
theorem QueryPhrase.unique {phrase other : QueryPhrase} (same : phrase.tokens = other.tokens) :
    phrase = other := by
  have noTop : ∀ (selection : SelectPhrase) (rest : List Token),
      ∀ token ∈ (selection.tokens ++ rest).head?, ¬ IsKeyword .top token.kind := by
    intro selection rest token first
    obtain ⟨more, split⟩ := List.head?_eq_some_iff.mp first
    exact SelectPhrase.ne_keyword split
  simp only [tokens, List.cons.injEq] at same
  have selects : phrase.select = other.select := Subtype.ext same.1
  obtain ⟨tops, behind⟩ := Clause.unique same.2 (noTop _ _) (noTop _ _)
    fun found found' equal => count_unique equal
  obtain ⟨selections, behind⟩ := SelectPhrase.unique behind
  simp only [List.cons.injEq] at behind
  have words : phrase.word = other.word := Subtype.ext behind.1
  have sources : phrase.source = other.source := Leaf.eq_of_token behind.2.1
  obtain ⟨references, behind⟩ := AliasPhrase.unique behind.2.2 phrase.opens_closingTokens
    other.opens_closingTokens
  obtain ⟨conditions, orders, limits⟩ := QueryPhrase.closing_unique behind
  cases phrase
  cases other
  simp only [QueryPhrase.mk.injEq]
  exact ⟨selects, tops, selections, words, sources, references, conditions, orders, limits⟩

end Grammar

end DocQuery
