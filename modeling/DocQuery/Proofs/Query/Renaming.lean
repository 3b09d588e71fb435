/-
**The name of the collection does not matter.**

* `renameFirst`: a path with another first name, if it has several and begins with a given one;
* `Query.renameAlias`: a query with another alias, in its source and at the beginning of its paths;
* `SameRoute`: two paths lead to the same place, each with names of its own for the collection.
  `propertyOf_eq`, `copyProperty_eq` and `meaning_mapPaths` say that nothing else counts: neither to
  conditions, nor to the order, nor to the names of what is selected;
* `Query.execute_renameAlias`: a query with another alias has the same answers.
-/

import DocQuery.Proofs.Query.Substitution
import DocQuery.Proofs.Text.Split

namespace DocQuery

/-! ### The names of a path -/

/-- The names of a path hold no point. -/
theorem dot_not_mem_of_mem_pathSegments {path segment : String}
    (member : segment ∈ pathSegments path) : '.' ∉ segment.toList := not_mem_of_mem_splitOn member

/-- The names of a path are those that it was put together from. -/
theorem pathSegments_intercalate {segments : List String} (some : segments ≠ [])
    (plain : ∀ segment ∈ segments, '.' ∉ segment.toList) :
    pathSegments (".".intercalate segments) = segments := splitOn_intercalate rfl some plain

/-- The first name of a path of several names. -/
def qualifier? (path : String) : Option String :=
  match pathSegments path with
  | first :: _ :: _ => some first
  | _ => none

/-- A path with another first name, if it has several names and begins with a given one. -/
def renameFirst (old new path : String) : String :=
  match pathSegments path with
  | first :: next :: more => if first = old then ".".intercalate (new :: next :: more) else path
  | _ => path

/-! ### Paths that lead to the same place -/

/-- Two paths lead to the same place, each with names of its own for the collection. -/
structure SameRoute (aliases : List String) (path : String) (aliases' : List String)
    (path' : String) : Prop where
  segments : stripAlias aliases' (pathSegments path') = stripAlias aliases (pathSegments path)
  whole : path' = "*" ↔ path = "*"

section

variable {aliases aliases' : List String} {path path' : String}

theorem valueAt?_eq (same : SameRoute aliases path aliases' path') (value : Json) :
    valueAt? aliases' value path' = valueAt? aliases value path := by
  simp only [valueAt?, same.segments, same.whole]

theorem propertyOf_eq (same : SameRoute aliases path aliases' path') (document : Operand) :
    propertyOf aliases' document path' = propertyOf aliases document path := by
  cases document with
  | json value => rw [propertyOf, valueAt?_eq same, propertyOf]
  | missing | instant _ | range _ _ => simp only [propertyOf, same.whole]

theorem copyProperty_eq (same : SameRoute aliases path aliases' path') (document : Fields)
    (identified : Bool) (projected : Fields) :
    copyProperty aliases' document identified projected path' =
      copyProperty aliases document identified projected path := by
  simp only [copyProperty, same.segments, valueAt?_eq same]

end

/-- A name of a collection takes the place of another one, unless a path begins with it already. -/
theorem sameRoute_renameFirst {implicit : List String} {old new path : String}
    (plain : '.' ∉ new.toList) (fresh : qualifier? path ≠ some new) :
    SameRoute (implicit ++ [old]) path (implicit ++ [new]) (renameFirst old new path) := by
  have plainPath := fun segment => @dot_not_mem_of_mem_pathSegments path segment
  unfold qualifier? at fresh
  unfold renameFirst
  generalize found : pathSegments path = segments at fresh plainPath
  match segments with
  -- A single name never stands for the collection.
  | [] | [_] => exact ⟨by rw [found]; rfl, Iff.rfl⟩
  | first :: next :: more =>
    dsimp only at fresh ⊢
    split
    · next same =>
      subst same
      have renamed : pathSegments (".".intercalate (new :: next :: more)) = new :: next :: more :=
        pathSegments_intercalate (List.cons_ne_nil _ _) (List.forall_mem_cons.mpr
          ⟨plain, fun segment member => plainPath segment (List.mem_cons_of_mem _ member)⟩)
      refine ⟨by rw [renamed, found]; simp [stripAlias], fun star => ?_, fun star => ?_⟩
      · rw [star] at renamed
        exact absurd (congrArg List.length renamed) (by simp [pathSegments, splitOn, splitAt])
      · rw [star] at found
        exact absurd (congrArg List.length found) (by simp [pathSegments, splitOn, splitAt])
    · next other =>
      have ne : first ≠ new := fun same => fresh (congrArg some same)
      refine ⟨?_, Iff.rfl⟩
      simp [found, stripAlias, other, ne]

/-! ### Trees with other paths -/

namespace Expr

mutual

/-- An expression with other paths. -/
def mapPaths (change : String → String) : Expr → Expr
  | .constant value position => .constant value position
  | .property path position => .property (change path) position
  | .parameter name position => .parameter name position
  | .binary left operator right position =>
    .binary (mapPaths change left) operator (mapPaths change right) position
  | .unary operator operand position => .unary operator (mapPaths change operand) position
  | .call name arguments position => .call name (mapArgumentPaths change arguments) position
  | .between tested lower upper position =>
    .between (mapPaths change tested) (mapPaths change lower) (mapPaths change upper) position
  | .everything => .everything

/-- The arguments of a function with other paths. -/
def mapArgumentPaths (change : String → String) : List Expr → List Expr
  | [] => []
  | argument :: more => mapPaths change argument :: mapArgumentPaths change more

end

mutual

/-- The paths of an expression. -/
def paths : Expr → List String
  | .property path _ => [path]
  | .constant _ _ | .parameter _ _ | .everything => []
  | .binary left _ right _ => left.paths ++ right.paths
  | .unary _ operand _ => operand.paths
  | .call _ arguments _ => argumentPaths arguments
  | .between tested lower upper _ => tested.paths ++ (lower.paths ++ upper.paths)

/-- The paths of the arguments of a function. -/
def argumentPaths : List Expr → List String
  | [] => []
  | argument :: more => argument.paths ++ argumentPaths more

end

theorem isValue_mapPaths (change : String → String) (expr : Expr) :
    (expr.mapPaths change).isValue = expr.isValue := by
  cases expr <;> rfl

end Expr

section

variable (scope : Scope) (aliases' : List String) (document : Operand)

mutual

/-- **An expression means the same with paths that lead to the same place.** -/
theorem meaning_mapPaths {change : String → String} : (expr : Expr) →
    (∀ path ∈ expr.paths, SameRoute scope.aliases path aliases' (change path)) →
    (meaning { scope with aliases := aliases' } document (expr.mapPaths change)).Agrees
      (meaning scope document expr)
  | .constant _ _, _ | .parameter _ _, _ | .everything, _ => .refl _
  | .property path _, same => by
    rw [Expr.mapPaths, meaning, propertyOf_eq (same path List.mem_cons_self)]
    exact .refl _
  | .binary left operator right _, same => by
    obtain ⟨sameLeft, sameRight⟩ := List.forall_mem_append.mp same
    exact agrees_ofTruth (binaryTruth_agrees _ operator (meaning_mapPaths left sameLeft)
      (meaning_mapPaths right sameRight))
  | .unary operator operand _, same =>
    agrees_ofTruth (unaryTruth_agrees operator (Expr.isValue_mapPaths change operand)
      (meaning_mapPaths operand same))
  | .call name arguments _, same =>
    agrees_ofTruth ((argumentValues_mapPaths arguments same).bind fun _ => SameUpTo.refl _)
  | .between tested lower upper _, same => by
    obtain ⟨sameTested, same⟩ := List.forall_mem_append.mp same
    obtain ⟨sameLower, sameUpper⟩ := List.forall_mem_append.mp same
    have bounds := (meaning_mapPaths lower sameLower).operand.bind fun low =>
      (meaning_mapPaths upper sameUpper).operand.bind fun high =>
        SameUpTo.refl (.ok (Operand.pair low high))
    exact ⟨bounds, (meaning_mapPaths tested sameTested).operand.bind fun _ =>
      bounds.bind fun _ => SameUpTo.refl _⟩

theorem argumentValues_mapPaths {change : String → String} : (arguments : List Expr) →
    (∀ path ∈ Expr.argumentPaths arguments, SameRoute scope.aliases path aliases' (change path)) →
    SameUpTo EvaluationError.unworded
      (argumentValues { scope with aliases := aliases' } document
        (Expr.mapArgumentPaths change arguments))
      (argumentValues scope document arguments)
  | [], _ => SameUpTo.refl _
  | argument :: more, same => by
    obtain ⟨sameFirst, sameMore⟩ := List.forall_mem_append.mp same
    exact (meaning_mapPaths argument sameFirst).operand.bind fun _ =>
      (argumentValues_mapPaths more sameMore).bind fun _ => SameUpTo.refl _

end

end

/-! ### Order and projection -/

/-- A key of the order with another path. -/
def OrderKey.mapPath (change : String → String) (key : OrderKey) : OrderKey :=
  { key with path := change key.path }

section

variable {aliases aliases' : List String} {change : String → String}

theorem compareDocuments_mapPaths {keys : List OrderKey}
    (same : ∀ path ∈ keys.map OrderKey.path, SameRoute aliases path aliases' (change path))
    (left right : Fields) :
    compareDocuments aliases' (keys.map (OrderKey.mapPath change)) left right =
      compareDocuments aliases keys left right := by
  induction keys with
  | nil => rfl
  | cons key more ih =>
    obtain ⟨sameFirst, sameMore⟩ := List.forall_mem_cons.mp same
    simp only [List.map_cons, compareDocuments, OrderKey.mapPath, propertyOf_eq sameFirst,
      ih sameMore]

theorem orderDocuments_mapPaths {keys : List OrderKey}
    (same : ∀ path ∈ keys.map OrderKey.path, SameRoute aliases path aliases' (change path))
    (documents : List Fields) :
    orderDocuments aliases' (keys.map (OrderKey.mapPath change)) documents =
      orderDocuments aliases keys documents := by
  unfold orderDocuments
  simp only [compareDocuments_mapPaths same]

theorem project_mapPaths {names : List String}
    (same : ∀ path ∈ names, SameRoute aliases path aliases' (change path)) (document : Fields) :
    project aliases' (names.map change) document = project aliases names document := by
  have copied (names : List String) (projected : Fields) (identified : Bool)
      (same : ∀ path ∈ names, SameRoute aliases path aliases' (change path)) :
      (names.map change).foldl (copyProperty aliases' document identified) projected =
        names.foldl (copyProperty aliases document identified) projected := by
    induction names generalizing projected with
    | nil => rfl
    | cons path more ih =>
      obtain ⟨sameFirst, sameMore⟩ := List.forall_mem_cons.mp same
      rw [List.map_cons, List.foldl_cons, copyProperty_eq sameFirst, ih _ sameMore,
        List.foldl_cons]
  exact copied names _ _ same

end

/-- A selection with other paths. -/
def Selection.mapPaths (change : String → String) : Selection → Selection
  | .all => .all
  | .paths names => .paths (names.map change)

/-- The paths of a selection. -/
def Selection.listed : Selection → List String
  | .all => []
  | .paths names => names

theorem Selection.apply_mapPaths {aliases aliases' : List String} {change : String → String}
    {selection : Selection}
    (same : ∀ path ∈ selection.listed, SameRoute aliases path aliases' (change path))
    (document : Fields) :
    (selection.mapPaths change).apply aliases' document = selection.apply aliases document := by
  cases selection with
  | all => rfl
  | paths names => exact project_mapPaths same document

/-! ### Queries with another alias -/

/-- A collection with another name that stands for it: another alias if it has one, else another
name of its own. -/
def Source.rename (name : String) (source : Source) : Source :=
  match source.alias? with
  | some _ => { source with alias? := some name }
  | none => { source with name := name }

theorem Source.reference_rename {name : String} (some : name ≠ "") (source : Source) :
    (source.rename name).reference = name := by
  obtain ⟨own, given⟩ := source
  cases given with
  | none => rfl
  | some given => simp [rename, reference, some]

namespace Query

/-- A query with other paths. -/
def mapPaths (change : String → String) (query : Query) : Query :=
  { query with
    selection := query.selection.mapPaths change
    condition := query.condition.map (Expr.mapPaths change)
    order := query.order.map (List.map (OrderKey.mapPath change)) }

/-- The paths of a query. -/
def paths (query : Query) : List String :=
  query.selection.listed ++ ((query.condition.map Expr.paths).getD [] ++
    (query.order.map fun keys => keys.map OrderKey.path).getD [])

/-- A query with another alias: its source has it, and every path of several names that begins with
the old one begins with the new one. -/
def renameAlias (name : String) (query : Query) : Query :=
  { query.mapPaths (renameFirst query.source.reference name) with
    source := query.source.rename name }

section

variable {query : Query} (scope : Scope) {aliases' : List String} {change : String → String}

theorem arranged_mapPaths
    (same : ∀ path ∈ query.paths, SameRoute scope.aliases path aliases' (change path))
    (documents : List Fields) :
    (query.mapPaths change).arranged aliases' documents =
      query.arranged scope.aliases documents := by
  obtain ⟨sameSelection, same⟩ := List.forall_mem_append.mp same
  have sameOrder := (List.forall_mem_append.mp same).2
  obtain ⟨selection, top, source, condition, order, limit⟩ := query
  have applied : (selection.mapPaths change).apply aliases' = selection.apply scope.aliases :=
    funext (Selection.apply_mapPaths sameSelection)
  simp only [arranged, mapPaths, applied]
  cases order with
  | none => rfl
  | some keys => simp only [Option.map_some, orderDocuments_mapPaths sameOrder]

/-- **An execution follows from the places that the paths lead to.** -/
theorem executeIn_mapPaths
    (same : ∀ path ∈ query.paths, SameRoute scope.aliases path aliases' (change path))
    (documents : List Fields) :
    SameUpTo EvaluationError.unworded
      ((query.mapPaths change).executeIn { scope with aliases := aliases' } documents)
      (query.executeIn scope documents) := by
  refine SameUpTo.bind ?_ fun matched => ?_
  · have sameCondition := (List.forall_mem_append.mp (List.forall_mem_append.mp same).2).1
    obtain ⟨selection, top, source, condition, order, limit⟩ := query
    cases condition with
    | none => exact SameUpTo.refl _
    | some condition =>
      exact filterDocuments_sameUpTo (fun document =>
        (meaning_mapPaths scope aliases' document condition sameCondition).truth) documents
  · rw [arranged_mapPaths scope same]
    exact SameUpTo.refl _

end

theorem dot_not_mem_of_isName {cs : List Char} (isName : IsName cs) : '.' ∉ cs := by
  cases cs with
  | nil => exact isName.elim
  | cons first more =>
    rintro (_ | ⟨_, member⟩)
    · exact absurd isName.1 (by decide +kernel)
    · exact absurd (isName.2 '.' member) (by decide +kernel)

/-- **The name of the collection does not matter.** With another alias, which begins no path of
several names, and paths that begin with it in place of the old one, a query has the same answers,
down to the names in what is selected, or fails for the same cause, but for the written form of a
quoted operand. -/
theorem execute_renameAlias (query : Query) {name : String} (isName : IsName name.toList)
    (fresh : ∀ path ∈ query.paths, qualifier? path ≠ some name) (settings : QuerySettings)
    (registry : Registry) (given : Json) (documents : List Fields) :
    SameUpTo ExecutionError.unworded
      ((query.renameAlias name).execute settings registry given documents)
      (query.execute settings registry given documents) := by
  cases isBound : bindParameters given with
  | error cause =>
    simp only [execute, QuerySettings.scope, isBound, error_bind]
    exact SameUpTo.refl _
  | ok bound =>
    have nonempty : name ≠ "" := by
      rintro rfl
      exact isName
    have same := executeIn_mapPaths ⟨settings.comparison, registry,
      knownAliases settings.implicitAliases (some query.source), bound⟩
      (fun path member => sameRoute_renameFirst (dot_not_mem_of_isName isName) (fresh path member))
      documents
    have aliases : knownAliases settings.implicitAliases (some (query.renameAlias name).source) =
        settings.implicitAliases ++ [name] :=
      congrArg (settings.implicitAliases ++ [·]) (Source.reference_rename nonempty query.source)
    rw [execute_eq_mapError isBound, execute_eq_mapError isBound, aliases]
    exact same.unworded

/-- Another alias for a query with a path of one name that is the new alias, and one that begins
with a name that always stands for the collection. -/
theorem execute_renameAlias_implicit :
    ∃ query, read "SELECT x.a.b, y FROM t AS x WHERE NOT x.c ORDER BY c.d DESC" = .ok query ∧
      (query.renameAlias "y").selection = .paths ["y.a.b", "y"] ∧
      (∀ path ∈ query.paths, qualifier? path ≠ some "y") ∧ ∀ documents,
        SameUpTo ExecutionError.unworded
          ((query.renameAlias "y").execute {} .standard .null documents)
          (query.execute {} .standard .null documents) := by
  obtain ⟨query, accepted, holds⟩ := exists_read
    (fun query => (query.renameAlias "y").selection = .paths ["y.a.b", "y"] ∧
      ∀ path ∈ query.paths, qualifier? path ≠ some "y")
    (show (read "SELECT x.a.b, y FROM t AS x WHERE NOT x.c ORDER BY c.d DESC").toOption.any _ by
      decide +kernel)
  exact ⟨query, accepted, holds.1, holds.2, fun documents =>
    execute_renameAlias query (by decide +kernel) holds.2 {} .standard .null documents⟩

end Query

end DocQuery
