/-
**Trees that have a written form.**

* `Expr.unplaced`, `Query.unplaced`: a tree without the places of its nodes. They do not show in its
  written form;
* `Expr.Writable`, `Query.Writable`: names are names, texts contain no quotation mark, integers are
  not too long, and operators stand where they belong;
* `QueryPhrase.writable`: the query that a derivation stands for is writable if all its tokens are
  well spelled. So everything that is read is writable.
-/

import DocQuery.Proofs.Query.Grammar
import DocQuery.Proofs.Query.Lexical

namespace DocQuery

open Grammar

/-! ### Trees without places -/

namespace Expr

mutual

/-- An expression without the places of its nodes. -/
def unplaced : Expr → Expr
  | .constant value _ => .constant value .origin
  | .property path _ => .property path .origin
  | .parameter name _ => .parameter name .origin
  | .binary left operator right _ => .binary left.unplaced operator right.unplaced .origin
  | .unary operator operand _ => .unary operator operand.unplaced .origin
  | .call name arguments _ => .call name (unplacedArguments arguments) .origin
  | .between value lower upper _ =>
    .between value.unplaced lower.unplaced upper.unplaced .origin
  | .everything => .everything

/-- The arguments of a function without their places. -/
def unplacedArguments : List Expr → List Expr
  | [] => []
  | argument :: more => argument.unplaced :: unplacedArguments more

end

theorem unplacedArguments_eq (arguments : List Expr) :
    unplacedArguments arguments = arguments.map unplaced := by
  induction arguments with
  | nil => rfl
  | cons argument more ih => rw [unplacedArguments, ih, List.map_cons]

theorem argumentTexts_eq (arguments : List Expr) :
    argumentTexts arguments = arguments.map text := by
  induction arguments with
  | nil => rfl
  | cons argument more ih => rw [argumentTexts, ih, List.map_cons]

mutual

/-- Places do not show in the written form. -/
theorem text_unplaced : (expr : Expr) → expr.unplaced.text = expr.text
  | .constant _ _ | .property _ _ | .parameter _ _ | .everything => rfl
  | .binary left operator right _ => by
    simp only [unplaced, text, text_unplaced left, text_unplaced right]
  | .unary operator operand _ => by simp only [unplaced, text, text_unplaced operand]
  | .call name arguments _ => by simp only [unplaced, text, argumentTexts_unplaced arguments]
  | .between value lower upper _ => by
    simp only [unplaced, text, text_unplaced value, text_unplaced lower, text_unplaced upper]

theorem argumentTexts_unplaced : (arguments : List Expr) →
    argumentTexts (unplacedArguments arguments) = argumentTexts arguments
  | [] => rfl
  | argument :: more => by
    simp only [unplacedArguments, argumentTexts, text_unplaced argument,
      argumentTexts_unplaced more]

end

mutual

/-- The constants of an expression. -/
def constants : Expr → List Operand
  | .constant value _ => [value]
  | .property _ _ | .parameter _ _ | .everything => []
  | .binary left _ right _ => left.constants ++ right.constants
  | .unary _ operand _ => operand.constants
  | .call _ arguments _ => argumentConstants arguments
  | .between value lower upper _ => value.constants ++ (lower.constants ++ upper.constants)

/-- The constants of the arguments of a function. -/
def argumentConstants : List Expr → List Operand
  | [] => []
  | argument :: more => argument.constants ++ argumentConstants more

end

theorem argumentConstants_eq (arguments : List Expr) :
    argumentConstants arguments = arguments.flatMap constants := by
  induction arguments with
  | nil => rfl
  | cons argument more ih => rw [argumentConstants, ih, List.flatMap_cons]

end Expr

/-- A constant is no infinite number. -/
def Operand.IsFinite : Operand → Prop
  | .json (.float number) => number.units?.isSome
  | _ => True

instance : DecidablePred Operand.IsFinite
  | .json (.float number) => inferInstanceAs (Decidable (number.units?.isSome = true))
  | .json .null | .json (.bool _) | .json (.int _) | .json (.string _) | .json (.array _)
  | .json (.object _) | .missing | .instant _ | .range .. => inferInstanceAs (Decidable True)

/-- The numbers among some constants are finite. -/
abbrev FiniteConstants (constants : List Operand) : Prop :=
  ∀ constant ∈ constants, constant.IsFinite

theorem FiniteConstants.left {constants more : List Operand}
    (finite : FiniteConstants (constants ++ more)) : FiniteConstants constants :=
  fun constant member => finite constant (List.mem_append_left _ member)

theorem FiniteConstants.right {constants more : List Operand}
    (finite : FiniteConstants (constants ++ more)) : FiniteConstants more :=
  fun constant member => finite constant (List.mem_append_right _ member)

namespace Query

/-- A query without the places of the nodes of its condition. -/
def unplaced (query : Query) : Query :=
  { query with condition := query.condition.map Expr.unplaced }

/-- The constants of a query. -/
def constants (query : Query) : List Operand := (query.condition.map Expr.constants).getD []

/-- Places do not show in the written form. -/
theorem text_unplaced (query : Query) : query.unplaced.text = query.text := by
  have same : (query.condition.map Expr.unplaced).map
      (fun condition => "WHERE " ++ condition.text) =
      query.condition.map fun condition => "WHERE " ++ condition.text := by
    cases query.condition with
    | none => rfl
    | some condition => exact congrArg (fun text => some ("WHERE " ++ text)) condition.text_unplaced
  simp only [text, clauses, unplaced, same]

end Query

/-! ### Writable trees -/

/-- A word is a name and no reserved word. -/
def IsPlain (name : String) : Prop :=
  IsName name.toList ∧ TokenKind.ofWord name = .identifier name

/-- A text is a path: names with points between them, of which the first is no reserved word. -/
def IsPath (path : String) : Prop :=
  ∃ first more, path = ".".intercalate (first :: more) ∧ IsPlain first ∧
    ∀ name ∈ more, IsName name.toList

/-- A value is one that a literal can stand for. -/
def IsLiteral : Json → Prop
  | .null | .bool _ => True
  | .string text => '\'' ∉ text.toList
  | .int value => value.natAbs < power 10 maxIntegerDigits
  | .float value => value ≠ .nan
  | _ => False

/-- An operator stands between two operands. -/
def IsJoint : Operator → Prop
  | .not | .between => False
  | _ => True

/-- An expression has a written form that can be read. -/
inductive Expr.Writable : Expr → Prop
  | constant {value : Json} {position : Position} (literal : IsLiteral value) :
    Writable (.constant (.json value) position)
  | property {path : String} {position : Position} (isPath : IsPath path) :
    Writable (.property path position)
  | parameter {name : String} {position : Position} (isName : IsName name.toList) :
    Writable (.parameter name position)
  | binary {left right : Expr} {operator : Operator} {position : Position}
    (isLeft : Writable left) (joint : IsJoint operator) (isRight : Writable right) :
    Writable (.binary left operator right position)
  | not {operand : Expr} {position : Position} (isOperand : Writable operand) :
    Writable (.unary .not operand position)
  | call {name : String} {arguments : List Expr} {position : Position} (plain : IsPlain name)
    (all : ∀ argument ∈ arguments, Writable argument) :
    Writable (.call name arguments position)
  | between {value lower upper : Expr} {position : Position} (isValue : Writable value)
    (isLower : Writable lower) (isUpper : Writable upper) :
    Writable (.between value lower upper position)

/-- A number of documents that is not too long. -/
def IsCount (count : Nat) : Prop := count < power 10 maxIntegerDigits

/-- A query has a written form that can be read. -/
structure Query.Writable (query : Query) : Prop where
  selection : ∀ names, query.selection = .paths names → names ≠ [] ∧ ∀ name ∈ names, IsPath name
  top : ∀ count ∈ query.top, IsCount count
  source : IsPlain query.source.name
  reference : ∀ name ∈ query.source.alias?, IsPlain name
  condition : ∀ condition ∈ query.condition, condition.Writable
  order : ∀ keys ∈ query.order, keys ≠ [] ∧ ∀ key ∈ keys, IsPath key.path
  limit : ∀ count ∈ query.limit, IsCount count

/-! ### What is read is writable -/

/-- The tokens of a text are well spelled. -/
def WellSpelled (text : List Char) (tokens : List Token) : Prop :=
  ∀ token ∈ tokens, (token.piece text).WellSpelled

section

variable {text : List Char}

theorem WellSpelled.left {tokens more : List Token} (spelled : WellSpelled text (tokens ++ more)) :
    WellSpelled text tokens := fun token member => spelled token (List.mem_append_left _ member)

theorem WellSpelled.right {tokens more : List Token} (spelled : WellSpelled text (tokens ++ more)) :
    WellSpelled text more := fun token member => spelled token (List.mem_append_right _ member)

theorem WellSpelled.head {token : Token} {more : List Token}
    (spelled : WellSpelled text (token :: more)) : (token.piece text).WellSpelled :=
  spelled token List.mem_cons_self

theorem WellSpelled.tail {token : Token} {more : List Token}
    (spelled : WellSpelled text (token :: more)) : WellSpelled text more :=
  fun other member => spelled other (List.mem_cons_of_mem token member)

end

theorem isPlain_of_names {piece : Piece} {name : String} (names : Names piece.kind name)
    (spelled : piece.WellSpelled) : IsPlain name := by
  obtain ⟨kind, spelling⟩ := piece
  cases names
  obtain ⟨isName, word⟩ := spelled
  have same : String.ofList spelling = name := eq_of_ofWord_identifier word
  subst same
  exact ⟨by rwa [String.toList_ofList], word⟩

theorem isName_of_isSegment {piece : Piece} (segment : IsSegment piece.kind)
    (spelled : piece.WellSpelled) : IsName piece.spelling := by
  obtain ⟨kind, spelling⟩ := piece
  cases segment <;> exact spelled.1

theorem isLiteral_of_denotes {piece : Piece} {value : Json} (denotes : Denotes piece.kind value)
    (spelled : piece.WellSpelled) : IsLiteral value := by
  obtain ⟨kind, spelling⟩ := piece
  cases denotes with
  | boolean value => trivial
  | null => trivial
  | _ => exact spelled

theorem isName_of_binds {piece : Piece} {name : String} (binds : Binds piece.kind name)
    (spelled : piece.WellSpelled) : IsName name.toList := by
  obtain ⟨kind, spelling⟩ := piece
  cases binds
  exact spelled

theorem isCount_of_counts {piece : Piece} {value : Int} (counts : Counts piece.kind value)
    (spelled : piece.WellSpelled) (nonnegative : 0 ≤ value) : IsCount value.toNat := by
  obtain ⟨kind, spelling⟩ := piece
  cases counts
  have bounded : value.natAbs < power 10 maxIntegerDigits := spelled
  have same : value.toNat = value.natAbs := by omega
  rw [IsCount, same]
  exact bounded

theorem isJoint_of_compares {kind : TokenKind} {operator : Operator}
    (compares : Compares kind operator) : IsJoint operator := by
  cases compares <;> trivial

theorem isJoint_operator (junction : Junction) : IsJoint junction.operator := by
  cases junction <;> trivial

namespace Grammar

variable {text : List Char} (stop : Position)

theorem segments_names {segments : List Segment}
    (spelled : WellSpelled text (segments.flatMap Segment.tokens)) :
    ∀ name ∈ segments.map fun segment => Parser.segmentText ⟨stop, some text⟩ segment.name,
      IsName name.toList := by
  induction segments with
  | nil => exact fun _ member => absurd member List.not_mem_nil
  | cons segment more ih =>
    intro name member
    rcases List.mem_cons.mp member with rfl | member
    · have isName := isName_of_isSegment segment.fits spelled.left.tail.head
      show IsName (String.ofList _).toList
      rwa [String.toList_ofList]
    · exact ih spelled.right name member

theorem Path.isPath {path : Path} (spelled : WellSpelled text path.tokens) :
    IsPath (path.value ⟨stop, some text⟩) :=
  ⟨_, _, rfl, isPlain_of_names path.first.fits spelled.head, segments_names stop spelled.tail⟩

/-- A property of expressions holds of what the phrases of a category stand for. -/
def Category.Holds (property : Expr → Prop) : (category : Category) → category.Value → Prop
  | .level _, expr => property expr
  | .further _, join => ∀ left, property left → property (join left)
  | .arguments, given | .moreArguments, given => ∀ argument ∈ given, property argument

/-- What a phrase stands for is writable. -/
theorem Phrase.writable {category : Category} (phrase : Phrase category)
    (spelled : WellSpelled text phrase.tokens) :
    category.Holds Expr.Writable (phrase.value ⟨stop, some text⟩) := by
  induction phrase with
  | joined first more ihFirst ihMore =>
    exact ihMore spelled.right _ (ihFirst spelled.left)
  | finished => exact fun _ writable => writable
  | @further junction word next more ihNext ihMore =>
    intro left writable
    exact ihMore spelled.tail.right _
      (.binary writable (isJoint_operator junction) (ihNext spelled.tail.left))
  | single inner ih | plain inner ih | positive inner ih => exact ih spelled
  | compared left operator right ihLeft ihRight =>
    exact .binary (ihLeft spelled.left) (isJoint_of_compares operator.fits)
      (ihRight spelled.right.tail)
  | between inner word lower joint upper ihInner ihLower ihUpper =>
    exact .between (ihInner spelled.left) (ihLower spelled.right.tail.left)
      (ihUpper spelled.right.tail.right.tail)
  | not word inner ih => exact .not (ih spelled.tail)
  | literal leaf => exact .constant (isLiteral_of_denotes leaf.fits spelled.head)
  | parameter leaf => exact .parameter (isName_of_binds leaf.fits spelled.head)
  | property path => exact .property (path.isPath stop spelled)
  | call name opening given closing ih =>
    exact .call (isPlain_of_names name.fits spelled.head) (ih spelled.tail.tail.left)
  | group opening inner closing ih => exact ih spelled.tail.left
  | noArguments => exact fun _ member => absurd member List.not_mem_nil
  | someArguments first more ihFirst ihMore =>
    intro argument member
    rcases List.mem_cons.mp member with rfl | member
    · exact ihFirst spelled.left
    · exact ihMore spelled.right argument member
  | noFurtherArgument => exact fun _ member => absurd member List.not_mem_nil
  | furtherArgument comma next more ihNext ihMore =>
    intro argument member
    rcases List.mem_cons.mp member with rfl | member
    · exact ihNext spelled.tail.left
    · exact ihMore spelled.tail.right argument member

/-- Items with commas between them have a property if each of them does. -/
theorem Separated.all {α : Type} {item : α → List Token} {property : α → Prop}
    (each : ∀ found, WellSpelled text (item found) → property found) {items : Separated α}
    (spelled : WellSpelled text (items.tokens item)) : ∀ found ∈ items.items, property found := by
  obtain ⟨first, more⟩ := items
  intro found member
  rcases List.mem_cons.mp member with rfl | member
  · exact each _ spelled.left
  · obtain ⟨next, isNext, rfl⟩ := List.mem_map.mp member
    refine each _ fun token inside => spelled.right token ?_
    exact List.mem_flatMap.mpr ⟨next, isNext, List.mem_cons_of_mem _ inside⟩

/-- What a clause holds is well spelled. -/
theorem Clause.spelled {word : Keyword} {α : Type} {body : α → List Token}
    {clause : Clause word α} (spelled : WellSpelled text (clause.tokens body)) :
    ∀ found ∈ clause, WellSpelled text (body found.2) := by
  rintro found ⟨⟩
  exact spelled.tail

/-- The query that a derivation stands for is writable. -/
theorem QueryPhrase.writable {phrase : QueryPhrase} (spelled : WellSpelled text phrase.tokens)
    (nonnegative : phrase.CountsNonnegative) : (phrase.value ⟨stop, some text⟩).Writable := by
  have behindTop := spelled.tail.right
  have behindFrom := behindTop.right.tail
  have closing := behindFrom.tail.right
  constructor
  · intro names selected
    have isSelection := behindTop.left
    obtain ⟨_, _, selection, _, _, _, _, _, _⟩ := phrase
    cases selection with
    | all star => cases selected
    | paths listed =>
      cases selected
      refine ⟨by simp [Separated.items], fun name listed => ?_⟩
      obtain ⟨path, isPath, rfl⟩ := List.mem_map.mp listed
      exact Separated.all (fun path spelled => path.isPath stop spelled) isSelection path isPath
  · intro count member
    obtain ⟨clause, isClause, rfl⟩ := Option.map_eq_some_iff.mp member
    exact isCount_of_counts clause.2.fits (Clause.spelled spelled.tail.left clause isClause).head
      (nonnegative.1 clause isClause)
  · exact isPlain_of_names phrase.source.fits behindFrom.head
  · intro name member
    have isReference := behindFrom.tail.left
    obtain ⟨_, _, _, _, _, reference, _, _, _⟩ := phrase
    cases reference with
    | absent => cases member
    | plain leaf =>
      cases member
      exact isPlain_of_names leaf.fits isReference.head
    | marked word leaf =>
      cases member
      exact isPlain_of_names leaf.fits isReference.tail.head
  · intro condition member
    obtain ⟨clause, isClause, rfl⟩ := Option.map_eq_some_iff.mp member
    exact clause.2.writable stop (Clause.spelled closing.left clause isClause)
  · intro keys member
    obtain ⟨clause, isClause, rfl⟩ := Option.map_eq_some_iff.mp member
    have isOrder := Clause.spelled closing.right.left clause isClause
    refine ⟨by simp [Separated.items], fun key listed => ?_⟩
    obtain ⟨found, isFound, rfl⟩ := List.mem_map.mp listed
    exact Separated.all (fun found spelled => found.path.isPath stop spelled.left) isOrder.tail
      found isFound
  · intro count member
    obtain ⟨clause, isClause, rfl⟩ := Option.map_eq_some_iff.mp member
    exact isCount_of_counts clause.2.fits
      (Clause.spelled closing.right.right clause isClause).head (nonnegative.2 clause isClause)

end Grammar

end DocQuery
