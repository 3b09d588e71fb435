/-
**The answer to a query.**

The documents that satisfy the condition, in order, as many of them as are asked for, and of each
what is selected.

* `filterDocuments`: the documents for which a condition holds;
* `orderDocuments`: the documents in order. Those that agree in all keys keep their places;
* `project`: the selected properties of a document, and always its identifier;
* `Query.execute`: the answer.
-/

import DocQuery.Query.Evaluate
import DocQuery.Query.Parameters
import DocQuery.Query.Settings

namespace DocQuery

/-! ### Filter -/

/-- The documents for which a condition holds. -/
def filterDocuments (scope : Scope) (condition : Expr) :
    List Fields → Except EvaluationError (List Fields)
  | [] => .ok []
  | document :: more => do
    let selected ← holds scope condition (.json (.object document))
    let others ← filterDocuments scope condition more
    return if selected then document :: others else others

/-! ### Order -/

/-- The order of two documents by keys, of which the first that tells them apart decides. -/
def compareDocuments (aliases : List String) (keys : List OrderKey) (left right : Fields) :
    Ordering :=
  match keys with
  | [] => .eq
  | key :: more =>
    let value (document : Fields) := propertyOf aliases (.json (.object document)) key.path
    let order := compareOperands (value left) (value right)
    (if key.descending then order.swap else order).then (compareDocuments aliases more left right)

/-- The documents in the order of the keys. -/
def orderDocuments (aliases : List String) (keys : List OrderKey) (documents : List Fields) :
    List Fields :=
  documents.mergeSort fun left right => compareDocuments aliases keys left right != .gt

/-! ### Projection -/

/-- The field that identifies a document. -/
def identifierField? (document : Fields) : Option (String × Json) :=
  match document.get? "id" with
  | some value => some ("id", value)
  | none => (document.get? "Id").map (Prod.mk "Id")

/-- Whether a path leads to the identifier itself. -/
def isIdentifierPath : List String → Bool
  | [segment] => lowerCase segment == "id"
  | _ => false

/-- Copies the value at the end of a path. A missing value is left out, and so is the identifier if
it is there already. -/
def copyProperty (aliases : List String) (document : Fields) (identified : Bool)
    (projected : Fields) (path : String) : Fields :=
  let segments := stripAlias aliases (pathSegments path)
  if identified && isIdentifierPath segments then projected
  else
    match valueAt? aliases (.object document) path, segments with
    | some value, segment :: more => setPath projected segment more value
    | _, _ => projected

/-- The identifier of a document and the properties at the ends of the paths. -/
def project (aliases : List String) (paths : List String) (document : Fields) : Fields :=
  let identifier := identifierField? document
  paths.foldl (copyProperty aliases document identifier.isSome) identifier.toList

/-- What a selection takes of a document. -/
def Selection.apply (aliases : List String) (document : Fields) : Selection → Fields
  | .all => document
  | .paths names => project aliases names document

/-! ### Execution -/

/-- The first items, or all where no number is given. -/
def takeAtMost {α : Type} (count : Option Nat) (items : List α) : List α :=
  match count with
  | some count => items.take count
  | none => items

/-- Why a query has no answer. -/
inductive ExecutionError where
  | parameters (cause : ParameterError)
  | evaluation (cause : EvaluationError)

/-- The scope of a query. -/
def QuerySettings.scope (settings : QuerySettings) (registry : Registry) (source : Option Source)
    (parameters : Json) : Except ParameterError Scope := do
  return ⟨settings.comparison, registry, knownAliases settings.implicitAliases source,
    ← bindParameters parameters⟩

namespace Query

/-- The documents that satisfy the condition of a query. -/
def matching (query : Query) (scope : Scope) (documents : List Fields) :
    Except EvaluationError (List Fields) :=
  match query.condition with
  | some condition => filterDocuments scope condition documents
  | none => .ok documents

/-- The selected parts of matching documents, in order and at most as many as are asked for. -/
def arranged (query : Query) (aliases : List String) (documents : List Fields) : List Fields :=
  let ordered := match query.order with
    | some keys => orderDocuments aliases keys documents
    | none => documents
  (takeAtMost query.limit (takeAtMost query.top ordered)).map (query.selection.apply aliases)

/-- The answer to a query within a scope. -/
def executeIn (query : Query) (scope : Scope) (documents : List Fields) :
    Except EvaluationError (List Fields) :=
  return query.arranged scope.aliases (← query.matching scope documents)

/-- The answer to a query. -/
def execute (query : Query) (settings : QuerySettings) (registry : Registry) (parameters : Json)
    (documents : List Fields) : Except ExecutionError (List Fields) :=
  match settings.scope registry (some query.source) parameters with
  | .error cause => .error (.parameters cause)
  | .ok scope =>
    match query.executeIn scope documents with
    | .error cause => .error (.evaluation cause)
    | .ok answer => .ok answer

end Query

end DocQuery
