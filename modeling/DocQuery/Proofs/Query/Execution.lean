/-
**The answer to a query is filtered, sorted, cut and projected.**

* `filterDocuments_eq_ok`: a filter keeps the documents that satisfy the condition, in order, if the
  condition has a truth for each of them;
* `Precedes`, `Tied`: how two documents stand by keys, of which the first that tells them apart
  decides. `compareDocuments` finds it;
* `Arranged`: documents in the order of keys, with those that tie as they stood before.
  `arranged_iff` says that this is a stable arrangement;
* `Query.execute_ok`: what an answer is.
-/

import DocQuery.Proofs.Except
import DocQuery.Proofs.Operand.Compare
import DocQuery.Proofs.StableSort
import DocQuery.Query.Execute

namespace DocQuery

open Std (OrientedCmp)

/-! ### Filter -/

/-- Whether a condition has a truth for a document, and holds. -/
def satisfies (scope : Scope) (condition : Expr) (document : Fields) : Bool :=
  match holds scope condition (.json (.object document)) with
  | .ok verdict => verdict
  | .error _ => false

/-- **A filter keeps the documents that satisfy the condition**, if it has a truth for each. -/
theorem filterDocuments_eq_ok {scope : Scope} {condition : Expr} {documents found : List Fields} :
    filterDocuments scope condition documents = .ok found ↔
      (∀ document ∈ documents, ∃ verdict,
        holds scope condition (.json (.object document)) = .ok verdict) ∧
      documents.filter (satisfies scope condition) = found := by
  induction documents generalizing found with
  | nil => simp [filterDocuments]
  | cons document more ih =>
    rw [filterDocuments, bind_eq_ok, List.forall_mem_cons, List.filter_cons]
    have found {truth : Bool}
        (verdict : holds scope condition (.json (.object document)) = .ok truth) :
        satisfies scope condition document = truth := by rw [satisfies, verdict]
    constructor
    · rintro ⟨truth, verdict, kept⟩
      obtain ⟨others, isOthers, kept⟩ := bind_eq_ok.mp kept
      obtain ⟨all, rfl⟩ := ih.mp isOthers
      cases kept
      rw [found verdict]
      exact ⟨⟨⟨truth, verdict⟩, all⟩, rfl⟩
    · rintro ⟨⟨⟨truth, verdict⟩, all⟩, rfl⟩
      rw [found verdict]
      exact ⟨truth, verdict, bind_eq_ok.mpr ⟨_, ih.mpr ⟨all, rfl⟩, rfl⟩⟩

/-- A filter follows from the truth of the condition for each document. -/
theorem filterDocuments_sameUpTo {δ : Type} {image : EvaluationError → δ} {scope other : Scope}
    {condition condition' : Expr}
    (same : ∀ document,
      SameUpTo image (holds other condition' document) (holds scope condition document))
    (documents : List Fields) :
    SameUpTo image (filterDocuments other condition' documents)
      (filterDocuments scope condition documents) := by
  induction documents with
  | nil => exact SameUpTo.refl _
  | cons document more ih => exact (same _).bind fun _ => ih.bind fun _ => SameUpTo.refl _

/-! ### Order -/

section

variable (aliases : List String) (keys : List OrderKey)

/-- The order of two documents by one key. -/
def keyOrder (key : OrderKey) (left right : Fields) : Ordering :=
  let order := compareOperands (propertyOf aliases (.json (.object left)) key.path)
    (propertyOf aliases (.json (.object right)) key.path)
  if key.descending then order.swap else order

theorem keyOrder_swap (key : OrderKey) (left right : Fields) :
    keyOrder aliases key left right = (keyOrder aliases key right left).swap := by
  have oriented := @OrientedCmp.eq_swap _ compareOperands _
    (propertyOf aliases (.json (.object left)) key.path)
    (propertyOf aliases (.json (.object right)) key.path)
  unfold keyOrder
  cases key.descending with
  | false => exact oriented
  | true => exact congrArg Ordering.swap oriented

/-- Two documents agree in all keys. -/
def Tied (left right : Fields) : Prop := ∀ key ∈ keys, keyOrder aliases key left right = .eq

instance (left right : Fields) : Decidable (Tied aliases keys left right) :=
  List.decidableBAll _ keys

theorem tied_cons (key : OrderKey) (left right : Fields) :
    Tied aliases (key :: keys) left right ↔
      keyOrder aliases key left right = .eq ∧ Tied aliases keys left right :=
  List.forall_mem_cons

/-- The first key in which two documents do not agree puts one before the other. -/
def Precedes (left right : Fields) : Prop :=
  ∃ earlier key later, keys = earlier ++ key :: later ∧ Tied aliases earlier left right ∧
    keyOrder aliases key left right = .lt

theorem compareDocuments_cons (key : OrderKey) (left right : Fields) :
    compareDocuments aliases (key :: keys) left right =
      (keyOrder aliases key left right).then (compareDocuments aliases keys left right) := rfl

theorem compareDocuments_eq_iff (left right : Fields) :
    compareDocuments aliases keys left right = .eq ↔ Tied aliases keys left right := by
  induction keys with
  | nil => exact ⟨fun _ _ member => absurd member List.not_mem_nil, fun _ => rfl⟩
  | cons key more ih =>
    rw [compareDocuments_cons, Ordering.then_eq_eq, ih, tied_cons]

theorem compareDocuments_lt_iff (left right : Fields) :
    compareDocuments aliases keys left right = .lt ↔ Precedes aliases keys left right := by
  induction keys with
  | nil =>
    constructor
    · exact nofun
    · rintro ⟨earlier, key, later, split, -⟩
      simp at split
  | cons key more ih =>
    rw [compareDocuments_cons, Ordering.then_eq_lt, ih]
    constructor
    · rintro (less | ⟨tied, earlier, decisive, later, rfl, ties, less⟩)
      · exact ⟨[], key, more, rfl, fun _ member => absurd member List.not_mem_nil, less⟩
      · exact ⟨key :: earlier, decisive, later, rfl, (tied_cons _ _ _ _ _).mpr ⟨tied, ties⟩, less⟩
    · rintro ⟨earlier, decisive, later, split, ties, less⟩
      cases earlier with
      | nil =>
        cases split
        exact .inl less
      | cons first earlier =>
        cases split
        obtain ⟨tied, ties⟩ := (tied_cons _ _ _ _ _).mp ties
        exact .inr ⟨tied, earlier, decisive, later, rfl, ties, less⟩

instance : OrientedCmp (compareDocuments aliases keys) := by
  refine ⟨fun {left right} => ?_⟩
  induction keys with
  | nil => rfl
  | cons key more ih =>
    rw [compareDocuments_cons, compareDocuments_cons, Ordering.swap_then, ← ih, ← keyOrder_swap]

/-- Documents are in the order of keys, and those that agree in all of them stand as they did. -/
structure Arranged (documents arranged : List Fields) : Prop where
  permutes : arranged.Perm documents
  sorted : arranged.Pairwise fun left right =>
    Precedes aliases keys left right ∨ Tied aliases keys left right
  stable : ∀ document ∈ documents, arranged.filter (fun found => Tied aliases keys document found) =
    documents.filter fun found => Tied aliases keys document found

/-- To be arranged by keys is to be arranged by the comparison of documents. -/
theorem arranged_iff {documents arranged : List Fields} :
    Arranged aliases keys documents arranged ↔
      StableArrangement (compareDocuments aliases keys) documents arranged := by
  have ascends (left right : Fields) : (compareDocuments aliases keys left right).isLE ↔
      Precedes aliases keys left right ∨ Tied aliases keys left right := by
    rw [← compareDocuments_lt_iff, ← compareDocuments_eq_iff]
    cases compareDocuments aliases keys left right <;> simp
  have ties (document : Fields) : tiesWith (compareDocuments aliases keys) document =
      fun found => decide (Tied aliases keys document found) := by
    funext found
    rw [Bool.eq_iff_iff, tiesWith_iff, compareDocuments_eq_iff, decide_eq_true_iff]
  constructor
  · rintro ⟨permutes, sorted, stable⟩
    refine ⟨permutes, sorted.imp (ascends _ _).mpr, fun document member => ?_⟩
    rw [ties]
    exact stable document member
  · rintro ⟨permutes, sorted, stable⟩
    refine ⟨permutes, sorted.imp (ascends _ _).mp, fun document member => ?_⟩
    rw [← ties]
    exact stable document member

theorem orderDocuments_eq (documents : List Fields) :
    orderDocuments aliases keys documents = documents.mergeSort fun left right =>
      (compareDocuments aliases keys left right).isLE := by
  unfold orderDocuments
  congr
  funext left right
  cases compareDocuments aliases keys left right <;> rfl

end

/-! ### Execution -/

/-- The first items twice are the first items of the lesser number. -/
theorem takeAtMost_takeAtMost {α : Type} (first second : Option Nat) (items : List α) :
    takeAtMost second (takeAtMost first items) =
      takeAtMost (first.toList ++ second.toList).min? items := by
  cases first with
  | none => cases second <;> rfl
  | some count =>
    cases second with
    | none => rfl
    | some other => exact List.take_take.trans (congrArg (items.take ·) (Nat.min_comm other count))

theorem QuerySettings.scope_aliases {settings : QuerySettings} {registry : Registry}
    {source : Option Source} {parameters : Json} {scope : Scope}
    (found : settings.scope registry source parameters = .ok scope) :
    scope.aliases = knownAliases settings.implicitAliases source := by
  obtain ⟨bound, _, same⟩ := bind_eq_ok.mp found
  cases same
  rfl

namespace Query

/-- With parameters that are accepted, an execution is one within the scope of their values. -/
theorem execute_eq_mapError {given : Json} {bound : Fields}
    (accepted : bindParameters given = .ok bound) (query : Query) (settings : QuerySettings)
    (registry : Registry) (documents : List Fields) :
    query.execute settings registry given documents =
      (query.executeIn ⟨settings.comparison, registry,
        knownAliases settings.implicitAliases (some query.source), bound⟩ documents).mapError
        .evaluation := by
  simp only [execute, QuerySettings.scope, accepted, ok_bind, pure, Except.pure]
  split <;> next outcome => rw [outcome]; rfl

/-- An execution follows from the truth of the condition for each document. -/
theorem executeIn_sameUpTo {δ : Type} {image : EvaluationError → δ} {query : Query}
    {scope other : Scope} {change : Expr → Expr} (aliases : other.aliases = scope.aliases)
    (same : ∀ condition ∈ query.condition, ∀ document,
      SameUpTo image (holds other (change condition) document) (holds scope condition document))
    (documents : List Fields) :
    SameUpTo image
      (Query.executeIn { query with condition := query.condition.map change } other documents)
      (query.executeIn scope documents) := by
  refine SameUpTo.bind ?_ fun matched => ?_
  · obtain ⟨selection, top, source, condition, order, limit⟩ := query
    cases condition with
    | none => exact SameUpTo.refl _
    | some condition => exact filterDocuments_sameUpTo (same condition rfl) documents
  · rw [aliases]
    exact SameUpTo.refl _

theorem executeIn_congr {query : Query} {scope other : Scope}
    (aliases : other.aliases = scope.aliases)
    (same : ∀ condition ∈ query.condition, ∀ document,
      holds other condition document = holds scope condition document)
    (documents : List Fields) :
    query.executeIn other documents = query.executeIn scope documents := by
  have executed := executeIn_sameUpTo aliases (fun condition isCondition document =>
    sameUpTo_id.mpr (same (id condition) isCondition document)) documents
  rw [Option.map_id] at executed
  exact sameUpTo_id.mp executed

/-- Whether a document satisfies the condition of a query, if there is one. -/
def satisfiedBy (query : Query) (scope : Scope) (document : Fields) : Bool :=
  match query.condition with
  | some condition => satisfies scope condition document
  | none => true

theorem matching_eq_ok {query : Query} {scope : Scope} {documents found : List Fields}
    (matched : query.matching scope documents = .ok found) :
    (∀ condition ∈ query.condition, ∀ document ∈ documents, ∃ verdict,
      holds scope condition (.json (.object document)) = .ok verdict) ∧
    documents.filter (query.satisfiedBy scope) = found := by
  obtain ⟨selection, top, source, condition, order, limit⟩ := query
  cases condition with
  | none =>
    cases matched
    refine ⟨fun _ member => absurd member (Option.not_mem_none _), ?_⟩
    exact List.filter_eq_self.mpr fun _ _ => rfl
  | some condition =>
    obtain ⟨all, rfl⟩ := filterDocuments_eq_ok.mp matched
    refine ⟨?_, rfl⟩
    rintro _ ⟨⟩
    exact all

/-- **An answer is filtered, sorted, cut and projected.** Of the documents that satisfy the
condition, in order, it holds the first ones, as many as both numbers allow, and of each what is
selected. With an order they are the same documents. If the comparison by its keys is transitive on
them, then they are in the order of the keys, those that agree in all keys stand as they did, and no
other sequence of them is so arranged. -/
theorem execute_ok {query : Query} {settings : QuerySettings} {registry : Registry}
    {parameters : Json} {documents answer : List Fields}
    (succeeds : query.execute settings registry parameters documents = .ok answer) :
    ∃ scope matched arranged,
      settings.scope registry (some query.source) parameters = .ok scope ∧
      (∀ condition ∈ query.condition, ∀ document ∈ documents, ∃ verdict,
        holds scope condition (.json (.object document)) = .ok verdict) ∧
      matched = documents.filter (query.satisfiedBy scope) ∧
      answer = (takeAtMost (query.top.toList ++ query.limit.toList).min? arranged).map
        (query.selection.apply scope.aliases) ∧
      match query.order with
      | none => arranged = matched
      | some keys => arranged.Perm matched ∧
        (TransitiveOn (compareDocuments scope.aliases keys) matched →
          Arranged scope.aliases keys matched arranged ∧
          ∀ other, Arranged scope.aliases keys matched other → other = arranged) := by
  unfold execute at succeeds
  split at succeeds
  · cases succeeds
  next scope isScope =>
  split at succeeds
  · cases succeeds
  next answer' executed =>
  cases succeeds
  obtain ⟨matched, isMatched, result⟩ := bind_eq_ok.mp executed
  obtain ⟨all, kept⟩ := matching_eq_ok isMatched
  cases result
  cases order : query.order with
  | none =>
    refine ⟨scope, matched, matched, isScope, all, kept.symm, ?_, rfl⟩
    rw [arranged, order, takeAtMost_takeAtMost]
  | some keys =>
    refine ⟨scope, matched, orderDocuments scope.aliases keys matched, isScope, all, kept.symm, ?_,
      ?_, fun transitive => ?_⟩
    · rw [arranged, order, takeAtMost_takeAtMost]
    · exact List.mergeSort_perm matched _
    · rw [orderDocuments_eq]
      have arranges := stableArrangement_mergeSort transitive
      refine ⟨(arranged_iff _ _).mpr arranges, fun other isOther => ?_⟩
      exact ((arranged_iff _ _).mp isOther).unique arranges

/-- Of the documents with an `x`, the two with the greatest ones, and of equal ones those with the
least `y`. Only the `y` is selected. -/
def greatestTwo : Query :=
  ⟨.paths ["c.y"], some 3, ⟨"c", none⟩, some (.property "c.x" .origin),
    some [⟨"c.x", true⟩, ⟨"c.y", false⟩], some 2⟩

/-- A document with an identifier and two numbers. -/
def numbered (id : String) (x y : Int) : Fields :=
  [("id", .string id), ("x", .int x), ("y", .int y)]

/-- Four documents, of which two agree in everything but their identifiers. -/
def fourDocuments : List Fields :=
  [numbered "a" 1 0, numbered "b" 2 5, numbered "c" 2 3, numbered "d" 2 3]

/-- A query with a condition, two keys in different directions, two bounds and a selection. -/
theorem execute_ok_greatestTwo :
    greatestTwo.execute {} .standard (.object []) ([("y", .int 0)] :: fourDocuments) =
      .ok [[("id", .string "c"), ("y", .int 3)], [("id", .string "d"), ("y", .int 3)]] := by
  obtain ⟨answer, succeeds⟩ : ∃ answer, greatestTwo.execute {} .standard (.object [])
      ([("y", .int 0)] :: fourDocuments) = .ok answer := ⟨_, rfl⟩
  obtain ⟨scope, matched, arranged, isScope, -, isMatched, rfl, -, unique⟩ := execute_ok succeeds
  have aliases : scope.aliases = ["c", "r", "c"] := QuerySettings.scope_aliases isScope
  obtain ⟨_, _, names, _⟩ := scope
  subst aliases
  subst isMatched
  have transitive : TransitiveOn
      (compareDocuments ["c", "r", "c"] [⟨"c.x", true⟩, ⟨"c.y", false⟩]) fourDocuments := by
    decide +kernel
  have inOrder : Arranged ["c", "r", "c"] [⟨"c.x", true⟩, ⟨"c.y", false⟩] fourDocuments
      [numbered "c" 2 3, numbered "d" 2 3, numbered "b" 2 5, numbered "a" 1 0] := by
    refine (arranged_iff _ _).mpr ⟨?_, by decide +kernel, ?_⟩
    · exact (@List.perm_append_comm _ [_, _] [_, _]).trans (.swap _ _ _)
    · simp only [fourDocuments, List.forall_mem_cons]
      exact ⟨rfl, rfl, rfl, rfl, nofun⟩
  obtain rfl := (unique transitive).2 _ inOrder
  exact succeeds

end Query

end DocQuery
