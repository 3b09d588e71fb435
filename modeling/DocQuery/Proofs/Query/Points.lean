/-
**Points stand in paths only.**

The tokens of a query are those of its paths, with others among them that are no points.

* `Phrase.paths`, `QueryPhrase.paths`: the paths of a derivation, in order;
* `Carries`: some tokens carry paths, and others that are no points. `Phrase.carries` and
  `QueryPhrase.carries` say so of what derives;
* `Carries.mem_tokens`: the tokens of these paths are among those that carry them;
* `Carries.behind_names`: a name stands in front of each point;
* `Carries.forall_segments_iff`: the names behind points are those of the paths.
-/

import DocQuery.Proofs.Query.Grammar
import Mathlib.Data.List.Chain

namespace DocQuery

namespace Grammar

/-! ### Tokens that are no points -/

theorem IsKeyword.noDot {word : Keyword} {kind : TokenKind} (isWord : IsKeyword word kind) :
    ¬ IsSymbol .dot kind := by
  obtain ⟨spelling, rfl⟩ := isWord
  rintro ⟨_, ⟨⟩⟩

theorem IsSymbol.noDot {mark : Symbol} {kind : TokenKind} (isMark : IsSymbol mark kind)
    (other : mark ≠ .dot) : ¬ IsSymbol .dot kind := by
  obtain ⟨spelling, rfl⟩ := isMark
  rintro ⟨_, ⟨⟩⟩
  exact other rfl

/-- No point stands for a value. -/
class Pointless {α : Type} (stands : TokenKind → α → Prop) : Prop where
  noDot : ∀ {kind : TokenKind} {value : α}, stands kind value → ¬ IsSymbol .dot kind

instance : Pointless Names := ⟨by rintro _ _ ⟨⟩ ⟨_, ⟨⟩⟩⟩
instance : Pointless Binds := ⟨by rintro _ _ ⟨⟩ ⟨_, ⟨⟩⟩⟩
instance : Pointless Counts := ⟨by rintro _ _ ⟨⟩ ⟨_, ⟨⟩⟩⟩
instance : Pointless Denotes := ⟨by rintro _ _ ⟨⟩ ⟨_, ⟨⟩⟩⟩
instance : Pointless Compares := ⟨by rintro _ _ ⟨⟩ ⟨_, ⟨⟩⟩⟩

theorem IsSegment.noDot {kind : TokenKind} (segment : IsSegment kind) : ¬ IsSymbol .dot kind := by
  rintro ⟨_, rfl⟩
  cases segment

/-! ### The paths of a derivation -/

/-- The paths of a phrase, in order. -/
def Phrase.paths : {category : Category} → Phrase category → List Path
  | _, .property path => [path]
  | _, .joined first more => first.paths ++ more.paths
  | _, .further _ next more => next.paths ++ more.paths
  | _, .single inner => inner.paths
  | _, .compared left _ right => left.paths ++ right.paths
  | _, .plain inner => inner.paths
  | _, .between inner _ lower _ upper => inner.paths ++ (lower.paths ++ upper.paths)
  | _, .positive inner => inner.paths
  | _, .not _ inner => inner.paths
  | _, .call _ _ given _ => given.paths
  | _, .group _ inner _ => inner.paths
  | _, .someArguments first more => first.paths ++ more.paths
  | _, .furtherArgument _ next more => next.paths ++ more.paths
  | _, .finished | _, .literal _ | _, .parameter _ | _, .noArguments | _, .noFurtherArgument => []

/-- The paths of what is selected. -/
def SelectPhrase.selected : SelectPhrase → List Path
  | .all _ => []
  | .paths listed => listed.items

/-- The paths of what a clause holds. -/
def Clause.paths {word : Keyword} {α : Type} (body : α → List Path) : Clause word α → List Path
  | none => []
  | some (_, found) => body found

/-- The paths of an order. -/
def OrderPhrase.paths (order : OrderPhrase) : List Path := order.keys.items.map KeyPhrase.path

/-- The paths of a query, in order. -/
def QueryPhrase.paths (phrase : QueryPhrase) : List Path :=
  phrase.selection.selected ++ (phrase.condition.paths Phrase.paths ++
    phrase.order.paths OrderPhrase.paths)

/-! ### Tokens that carry paths -/

/-- Some tokens are those of paths, in order, and others among them that are no points. -/
inductive Carries : List Token → List Path → Prop
  | nil : Carries [] []
  | path (path : Path) {tokens : List Token} {paths : List Path} (behind : Carries tokens paths) :
    Carries (path.tokens ++ tokens) (path :: paths)
  | other {token : Token} (noDot : ¬ IsSymbol .dot token.kind) {tokens : List Token}
    {paths : List Path} (behind : Carries tokens paths) : Carries (token :: tokens) paths

namespace Carries

variable {tokens others : List Token} {paths more : List Path}

theorem single {token : Token} (noDot : ¬ IsSymbol .dot token.kind) : Carries [token] [] :=
  .other noDot .nil

theorem append (carries : Carries tokens paths) (carries' : Carries others more) :
    Carries (tokens ++ others) (paths ++ more) := by
  induction carries with
  | nil => exact carries'
  | path path _ ih =>
    rw [List.append_assoc]
    exact .path path ih
  | other noDot _ ih => exact .other noDot ih

end Carries

theorem Path.carries (path : Path) : Carries path.tokens [path] := by
  have carries := Carries.path path .nil
  rwa [List.append_nil] at carries

/-- The tokens of a condition carry its paths. -/
theorem Phrase.carries {category : Category} (phrase : Phrase category) :
    Carries phrase.tokens phrase.paths := by
  induction phrase with
  | finished | noArguments | noFurtherArgument => exact .nil
  | joined first more ihFirst ihMore | someArguments first more ihFirst ihMore =>
    exact ihFirst.append ihMore
  | further word next more ihNext ihMore => exact .other word.property.noDot (ihNext.append ihMore)
  | furtherArgument comma next more ihNext ihMore =>
    exact .other (comma.property.noDot (by decide)) (ihNext.append ihMore)
  | single inner ih | plain inner ih | positive inner ih => exact ih
  | compared left operator right ihLeft ihRight =>
    exact ihLeft.append (.other (Pointless.noDot operator.fits) ihRight)
  | between inner word lower joint upper ihInner ihLower ihUpper =>
    exact ihInner.append (.other word.property.noDot
      (ihLower.append (.other joint.property.noDot ihUpper)))
  | not word inner ih => exact .other word.property.noDot ih
  | literal leaf => exact .single (Pointless.noDot leaf.fits)
  | parameter leaf => exact .single (Pointless.noDot leaf.fits)
  | property path => exact path.carries
  | call name opening given closing ih =>
    have closed := ih.append (.single (closing.property.noDot (by decide)))
    rw [List.append_nil] at closed
    exact .other (Pointless.noDot name.fits) (.other (opening.property.noDot (by decide)) closed)
  | group opening inner closing ih =>
    have closed := ih.append (.single (closing.property.noDot (by decide)))
    rw [List.append_nil] at closed
    exact .other (opening.property.noDot (by decide)) closed

/-- Items with commas between them carry a path each, if each item does. -/
theorem Separated.carries {α : Type} {item : α → List Token} {path : α → Path}
    (each : ∀ found, Carries (item found) [path found]) (items : Separated α) :
    Carries (items.tokens item) (items.items.map path) := by
  obtain ⟨first, more⟩ := items
  refine (each first).append ?_
  induction more with
  | nil => exact .nil
  | cons next more ih =>
    rw [List.flatMap_cons, List.cons_append]
    exact .other (next.1.property.noDot (by decide)) ((each next.2).append ih)

theorem Clause.carries {word : Keyword} {α : Type} {tokens : α → List Token}
    {paths : α → List Path} (each : ∀ found, Carries (tokens found) (paths found))
    (clause : Clause word α) : Carries (clause.tokens tokens) (clause.paths paths) := by
  rcases clause with _ | ⟨first, found⟩
  · exact .nil
  · exact .other first.property.noDot (each found)

theorem SelectPhrase.carries (phrase : SelectPhrase) : Carries phrase.tokens phrase.selected := by
  cases phrase with
  | all star => exact .single (star.property.noDot (by decide))
  | paths listed =>
    have carries := Separated.carries Path.carries listed
    rwa [List.map_id'] at carries

theorem AliasPhrase.carries (phrase : AliasPhrase) : Carries phrase.tokens [] := by
  cases phrase with
  | absent => exact .nil
  | plain name => exact .single (Pointless.noDot name.fits)
  | marked word name => exact .other word.property.noDot (.single (Pointless.noDot name.fits))

theorem KeyPhrase.carries (key : KeyPhrase) : Carries key.tokens [key.path] := by
  obtain ⟨path, direction⟩ := key
  have carries : Carries direction.tokens [] := by
    cases direction with
    | unmarked => exact .nil
    | ascending word => exact .single word.property.noDot
    | descending word => exact .single word.property.noDot
  exact path.carries.append carries

theorem OrderPhrase.carries (order : OrderPhrase) : Carries order.tokens order.paths :=
  .other order.word.property.noDot (Separated.carries KeyPhrase.carries order.keys)

theorem countTokens_carries {word : Keyword} (clause : Clause word (Leaf Counts)) :
    Carries (clause.tokens countTokens) [] := by
  rcases clause with _ | ⟨first, count⟩
  · exact .nil
  · exact .other first.property.noDot (.single (Pointless.noDot count.fits))

/-- **The tokens of a query carry its paths**, and no other points. -/
theorem QueryPhrase.carries (phrase : QueryPhrase) : Carries phrase.tokens phrase.paths := by
  have condition := Clause.carries Phrase.carries phrase.condition
  have order := Clause.carries OrderPhrase.carries phrase.order
  have closing := condition.append (order.append (countTokens_carries phrase.limit))
  rw [List.append_nil] at closing
  have source := Carries.other (Pointless.noDot phrase.source.fits)
    (phrase.reference.carries.append closing)
  exact .other phrase.select.property.noDot ((countTokens_carries phrase.top).append
    (phrase.selection.carries.append (.other phrase.word.property.noDot source)))

/-- The tokens of each path are among the tokens that carry it. -/
theorem Carries.mem_tokens {tokens : List Token} {paths : List Path}
    (carries : Carries tokens paths) : ∀ path ∈ paths, ∀ token ∈ path.tokens, token ∈ tokens := by
  induction carries with
  | nil => exact fun _ member => absurd member List.not_mem_nil
  | path path _ ih =>
    refine List.forall_mem_cons.mpr ⟨fun token => List.mem_append_left _, ?_⟩
    exact fun other member token inside => List.mem_append_right _ (ih other member token inside)
  | other _ _ ih =>
    exact fun path member token inside => List.mem_cons_of_mem _ (ih path member token inside)

theorem Path.name_mem {path : Path} {segment : Segment} (member : segment ∈ path.more) :
    segment.name ∈ path.tokens :=
  List.mem_cons_of_mem _ (List.mem_flatMap.mpr
    ⟨segment, member, List.mem_cons_of_mem _ List.mem_cons_self⟩)

/-! ### What stands around a point -/

/-- No point comes first. -/
theorem Carries.noDot_first {tokens : List Token} {paths : List Path}
    (carries : Carries tokens paths) : ∀ token ∈ tokens.head?, ¬ IsSymbol .dot token.kind := by
  cases carries with
  | nil => exact fun _ first => nomatch first
  | path path _ =>
    rintro _ ⟨⟩
    exact Pointless.noDot path.first.fits
  | other noDot _ =>
    rintro _ ⟨⟩
    exact noDot

/-- **A name stands in front of each point.** -/
theorem Carries.behind_names {tokens : List Token} {paths : List Path}
    (carries : Carries tokens paths) :
    tokens.IsChain fun token next => IsSymbol .dot next.kind → IsSegment token.kind := by
  induction carries with
  | nil => exact .nil
  | @other token noDot tokens paths behind ih =>
    rw [List.isChain_cons]
    exact ⟨fun next first dot => absurd dot (behind.noDot_first next first), ih⟩
  | @path path tokens paths behind ih =>
    obtain ⟨first, segments⟩ := path
    have isName : IsSegment first.token.kind := by
      generalize first.token.kind = kind, first.value = name, first.fits = names
      cases names
      exact .identifier name
    show (first.token :: (segments.flatMap Segment.tokens ++ tokens)).IsChain _
    generalize first.token = token at isName ⊢
    -- Behind every name of the path stands a point, and behind that the next name.
    induction segments generalizing token with
    | nil =>
      rw [List.flatMap_nil, List.nil_append, List.isChain_cons]
      exact ⟨fun _ _ _ => isName, ih⟩
    | cons segment more ihMore =>
      simp only [List.flatMap_cons, Segment.tokens, List.cons_append, List.nil_append,
        List.isChain_cons_cons]
      exact ⟨fun _ => isName, fun dot => absurd dot segment.fits.noDot,
        ihMore segment.name segment.fits⟩

/-- **The names behind points are those of the paths.** -/
theorem Carries.forall_segments_iff {tokens : List Token} {paths : List Path}
    (carries : Carries tokens paths) (property : Token → Prop) :
    (∀ path ∈ paths, ∀ segment ∈ path.more, property segment.name) ↔
      tokens.IsChain fun point name => IsSymbol .dot point.kind → property name := by
  induction carries with
  | nil => simp
  | @other token noDot tokens paths behind ih =>
    rw [ih, List.isChain_cons]
    exact ⟨fun holds => ⟨fun _ _ dot => absurd dot noDot, holds⟩, fun holds => holds.2⟩
  | @path path tokens paths behind ih =>
    obtain ⟨first, segments⟩ := path
    rw [List.forall_mem_cons, ih]
    show _ ↔ (first.token :: (segments.flatMap Segment.tokens ++ tokens)).IsChain _
    have isName := Pointless.noDot first.fits
    generalize first.token = token at isName ⊢
    induction segments generalizing token with
    | nil =>
      rw [List.flatMap_nil, List.nil_append, List.isChain_cons]
      constructor
      · exact fun holds => ⟨fun _ _ dot => absurd dot isName, holds.2⟩
      · exact fun holds => ⟨fun _ member => absurd member List.not_mem_nil, holds.2⟩
    | cons segment more ihMore =>
      have names := ihMore segment.name segment.fits.noDot
      simp only [List.flatMap_cons, Segment.tokens, List.cons_append, List.nil_append,
        List.isChain_cons_cons, List.forall_mem_cons]
      constructor
      · rintro ⟨⟨isFirst, others⟩, behind⟩
        exact ⟨fun dot => absurd dot isName, fun _ => isFirst, names.mp ⟨others, behind⟩⟩
      · rintro ⟨-, isFirst, chain⟩
        obtain ⟨others, behind⟩ := names.mpr chain
        exact ⟨⟨isFirst segment.dot.property, others⟩, behind⟩

end Grammar

end DocQuery
