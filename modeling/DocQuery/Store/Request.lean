/-
**Requests and their results.**

* `CreateRequest`: the wish for a new resource;
* `Listing`: what a folder holds;
* `QueryRequest` and `QueryResult`: a query as it is sent, and one page of its answer.

Each is read by a check and written as an object.
-/

import DocQuery.Store.Resource

namespace DocQuery

/-- The wish for a new resource with an identifier. -/
structure CreateRequest where
  id : String
deriving DecidableEq, Repr

namespace CreateRequest

/-- Reads a request. -/
def check (kind : ResourceKind) : Check CreateRequest :=
  Check.record fun fields => CreateRequest.mk <$> idLabel.required fields (resourceId kind)

/-- Writes a request. -/
def toJson (naming : Naming) (request : CreateRequest) : Json :=
  .object [(idLabel.key naming, .string request.id)]

end CreateRequest

/-! ### Listings -/

/-- What a folder holds. -/
structure Listing (α : Type) where
  /-- The identifier that the store gave to the owner of the folder. -/
  rid : String := ""
  items : List α := []
  count : Int := 0

/-- The fields that hold the items of a listing, and their number. -/
def databasesLabel : Label := ⟨"databases", "Databases"⟩
def containersLabel : Label := ⟨"document_collections", "DocumentCollections"⟩
def documentsLabel : Label := ⟨"documents", "Documents"⟩
def countLabel : Label := ⟨"count", "_count"⟩

namespace Listing

variable {α : Type}

/-- The listing that fields describe. -/
def ofFields (label : Label) (item : Check α) (fields : Fields) : Checked (Listing α) :=
  Listing.mk
    <$> ridLabel.withDefault fields "" Check.text
    <*> label.withDefault fields [] (Check.listOf item)
    <*> countLabel.withDefault fields 0 Check.integer

/-- Reads a listing. -/
def check (label : Label) (item : Check α) : Check (Listing α) := Check.record (ofFields label item)

/-- A listing as the fields of an object. -/
def toFields (naming : Naming) (label : Label) (item : α → Json) (listing : Listing α) : Fields :=
  [(ridLabel.key naming, .string listing.rid),
    (label.key naming, .array (listing.items.map item)),
    (countLabel.key naming, .int listing.count)]

/-- The listing of items of an owner. -/
def ofItems (rid : String) (items : List α) : Listing α := ⟨rid, items, items.length⟩

end Listing

/-- Reads a document. -/
def checkDocument : Check Fields := Check.dictionaryOf Check.anything

/-! ### Queries -/

/-- A parameter of a query with its value. -/
structure QueryParameter where
  name : String
  value : Json := .null

namespace QueryParameter

/-- The name of a parameter, which does not consist of `@` alone. -/
def checkName : Check String := fun value =>
  (Check.text value).andThen fun name =>
    if name.toList.all (· == '@') then .refuse (.refused "Parameter name cannot be empty")
    else .valid name

/-- Reads a parameter. -/
def check : Check QueryParameter :=
  Check.record fun fields =>
    QueryParameter.mk
      <$> (Label.plain "name").required fields checkName
      <*> (Label.plain "value").withDefault fields .null Check.anything

/-- Writes a parameter. -/
def toJson (parameter : QueryParameter) : Json :=
  .object [("name", .string parameter.name), ("value", parameter.value)]

end QueryParameter

/-- A query as it is sent. -/
structure QueryRequest where
  query : String
  parameters : List QueryParameter := []
  /-- The size of a page. -/
  pageSize : Option { count : Nat // 0 < count } := none
  /-- The token for the page. -/
  continuation : Option String := none

/-- The field with the size of a page. -/
def requestedSizeLabel : Label := ⟨"max_item_count", "maxItemCount"⟩

namespace QueryRequest

/-- Reads a query that is sent. -/
def check : Check QueryRequest :=
  Check.record fun fields =>
    QueryRequest.mk
      <$> (Label.plain "query").required fields Check.text
      <*> (Label.plain "parameters").withDefault fields [] (Check.listOf QueryParameter.check)
      <*> requestedSizeLabel.withDefault fields none (Check.optional Check.positive)
      <*> (Label.plain "continuation").withDefault fields none (Check.optional Check.text)

/-- The parameters as entries with a name and a value. -/
def parametersJson (request : QueryRequest) : Json :=
  .array (request.parameters.map QueryParameter.toJson)

/-- Writes a query that is sent. -/
def toJson (naming : Naming) (request : QueryRequest) : Json :=
  .object [("query", .string request.query), ("parameters", request.parametersJson),
    (requestedSizeLabel.key naming,
      (request.pageSize.map fun size => Json.int size.val).getD .null),
    ("continuation", (request.continuation.map Json.string).getD .null)]

end QueryRequest

/-- One page of the answer to a query. -/
structure QueryResult where
  listing : Listing Fields := {}
  /-- The token for the next page. -/
  continuation : Option String := none

/-- The field with the token for the next page. -/
def continuationLabel : Label := ⟨"continuation", "_continuation"⟩

namespace QueryResult

/-- Reads a page. -/
def check : Check QueryResult :=
  Check.record fun fields =>
    QueryResult.mk
      <$> Listing.ofFields documentsLabel checkDocument fields
      <*> continuationLabel.withDefault fields none (Check.optional Check.text)

/-- Writes a page. -/
def toJson (naming : Naming) (result : QueryResult) : Json :=
  .object (result.listing.toFields naming documentsLabel .object ++
    [(continuationLabel.key naming, (result.continuation.map Json.string).getD .null)])

end QueryResult

end DocQuery
