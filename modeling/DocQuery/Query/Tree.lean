/-
**The tree of a query, and how it is written.**

* `Expr`: a condition or a part of one. Every node knows where it stands in the text it was read
  from;
* `Query`: what is selected, from which collection, under which condition, in which order, and how
  many documents at most;
* `Expr.text` and `Query.text`: the written form, in which every operator between operands is put in
  parentheses;
* `Expr.same` and `Query.same`: equality without regard to places in the text.
-/

import DocQuery.Operand.Equality
import DocQuery.Query.Token

namespace DocQuery

/-! ### Trees -/

/-- A condition or a part of one. -/
inductive Expr where
  | constant (value : Operand) (position : Position)
  | property (path : String) (position : Position)
  | parameter (name : String) (position : Position)
  | binary (left : Expr) (operator : Operator) (right : Expr) (position : Position)
  | unary (operator : Operator) (operand : Expr) (position : Position)
  | call (name : String) (arguments : List Expr) (position : Position)
  | between (value lower upper : Expr) (position : Position)
  /-- All properties of a document, which can be selected but is no condition. -/
  | everything

instance : Inhabited Expr := ⟨.everything⟩

/-- What a query selects. -/
inductive Selection where
  | all
  | paths (paths : List String)
deriving DecidableEq, Repr

/-- The collection that a query reads, and the name that stands for it in paths. -/
structure Source where
  name : String
  alias? : Option String
deriving DecidableEq, Repr

/-- The name that stands for the collection in paths. An empty alias is none. -/
def Source.reference (source : Source) : String :=
  match source.alias? with
  | some name => if name.isEmpty then source.name else name
  | none => source.name

/-- A key by which documents are put in order. -/
structure OrderKey where
  path : String
  descending : Bool
deriving DecidableEq, Repr

/-- A query. -/
structure Query where
  selection : Selection
  top : Option Nat
  source : Source
  condition : Option Expr
  order : Option (List OrderKey)
  limit : Option Nat

/-! ### Texts -/

/-- The offset of an instant as it is shown in messages. -/
def shownOffset (offset : Int) : String :=
  if offset = 0 then "datetime.timezone.utc"
  else
    let days := if offset < 0 then "days=-1, " else ""
    let seconds := (offset % 1440) * 60
    "datetime.timezone(datetime.timedelta(" ++ days ++ "seconds=" ++ toString seconds ++ "))"

/-- An instant as it is shown in messages. -/
def Instant.shown (t : Instant) : String :=
  let seconds := if t.second = 0 ∧ t.microsecond = 0 then []
    else if t.microsecond = 0 then [t.second] else [t.second, t.microsecond]
  let parts := [t.year, t.month, t.day, t.hour, t.minute] ++ seconds
  "datetime.datetime(" ++ ", ".intercalate (parts.map fun part => toString part) ++
    ", tzinfo=" ++ shownOffset t.offset ++ ")"

/-- An operand as it is shown in messages. -/
def Operand.shown : Operand → String
  | .missing => "MISSING"
  | .json value => value.shown
  | .instant value => value.shown
  | .range lower upper => "[" ++ shown lower ++ ", " ++ shown upper ++ "]"

/-- A constant as it is written in a query. Queries have no exponents. -/
def constantText : Operand → String
  | .json .null => "null"
  | .json (.bool value) => if value then "true" else "false"
  | .json (.string text) => "'" ++ text ++ "'"
  | .json (.float value) => value.positionalText
  | operand => operand.shown

namespace Expr

mutual

/-- How an expression is written. -/
def text : Expr → String
  | .constant value _ => constantText value
  | .property path _ => path
  | .parameter name _ => "@" ++ name
  | .binary left operator right _ =>
    "(" ++ text left ++ " " ++ operator.symbol ++ " " ++ text right ++ ")"
  | .unary operator operand _ => operator.symbol ++ " " ++ text operand
  | .call name arguments _ => name ++ "(" ++ ", ".intercalate (argumentTexts arguments) ++ ")"
  | .between value lower upper _ =>
    "(" ++ text value ++ " BETWEEN " ++ text lower ++ " AND " ++ text upper ++ ")"
  | .everything => "*"

/-- How the arguments of a function are written. -/
def argumentTexts : List Expr → List String
  | [] => []
  | argument :: more => text argument :: argumentTexts more

end

end Expr

/-- How the names of what is selected are written. -/
def Selection.items : Selection → List String
  | .all => ["*"]
  | .paths names => names

/-- How the collection is written. -/
def Source.text (source : Source) : String :=
  if (source.alias?.getD "").isEmpty then "FROM " ++ source.name
  else "FROM " ++ source.name ++ " AS " ++ source.reference

/-- How an order key is written. -/
def OrderKey.text (key : OrderKey) : String :=
  key.path ++ (if key.descending then " DESC" else " ASC")

namespace Query

/-- The clauses of a query as they are written. -/
def clauses (query : Query) : List String :=
  let top := match query.top with
    | some count => "TOP " ++ toString count ++ " "
    | none => ""
  ["SELECT " ++ top ++ ", ".intercalate query.selection.items, query.source.text] ++
    (query.condition.map fun condition => "WHERE " ++ condition.text).toList ++
    (query.order.map fun keys => "ORDER BY " ++ ", ".intercalate (keys.map OrderKey.text)).toList ++
    (query.limit.map fun count => "LIMIT " ++ toString count).toList

/-- How a query is written. -/
def text (query : Query) : String := " ".intercalate query.clauses

end Query

/-! ### Equality -/

namespace Expr

mutual

/-- Whether two expressions are equal wherever they stand. -/
def same : Expr → Expr → Bool
  | .constant value _, .constant other _ => value.same other
  | .property path _, .property other _ => path == other
  | .parameter name _, .parameter other _ => name == other
  | .binary left operator right _, .binary left' operator' right' _ =>
    same left left' && operator == operator' && same right right'
  | .unary operator operand _, .unary operator' operand' _ =>
    operator == operator' && same operand operand'
  | .call name arguments _, .call name' arguments' _ =>
    name == name' && sameArguments arguments arguments'
  | .between value lower upper _, .between value' lower' upper' _ =>
    same value value' && same lower lower' && same upper upper'
  | .everything, .everything => true
  | _, _ => false

/-- Whether two sequences of arguments are equal one by one. -/
def sameArguments : List Expr → List Expr → Bool
  | [], [] => true
  | argument :: more, other :: others => same argument other && sameArguments more others
  | _, _ => false

end

end Expr

/-- Whether two queries are equal wherever their parts stand. -/
def Query.same (query other : Query) : Bool :=
  query.selection == other.selection && query.top == other.top && query.source == other.source &&
    (match query.condition, other.condition with
      | none, none => true
      | some condition, some condition' => condition.same condition'
      | _, _ => false) &&
    query.order == other.order && query.limit == other.limit

end DocQuery
