/-
**Settings of queries.**

Which names always stand for the collection, how far apart equal numbers may be, and how many
documents a page holds. `QuerySettings.check` reads them from a JSON value.
-/

import DocQuery.Operand.Comparison
import DocQuery.Schema.Check

namespace DocQuery

/-- The number of documents on a page unless the settings say otherwise. -/
def defaultPageSize : { count : Nat // 0 < count } := ⟨100, by decide⟩

theorem zero_le_defaultTolerance : (Binary64.zero false).le defaultTolerance := by
  decide +kernel

/-- The settings of queries. -/
structure QuerySettings where
  implicitAliases : List String := ["c", "r"]
  tolerance : { bound : Binary64 // (Binary64.zero false).le bound } :=
    ⟨defaultTolerance, zero_le_defaultTolerance⟩
  pageSize : { count : Nat // 0 < count } := defaultPageSize

namespace QuerySettings

/-- The names of the settings. -/
def aliasesLabel : Label := .plain "implicit_aliases"
def toleranceLabel : Label := .plain "equality_tolerance"
def pageSizeLabel : Label := .plain "default_max_item_count"

/-- The settings that fields give. What they leave out keeps its default. -/
def ofFields (fields : Fields) : Checked QuerySettings :=
  let defaults : QuerySettings := {}
  QuerySettings.mk
    <$> aliasesLabel.withDefault fields defaults.implicitAliases (Check.listOf Check.text)
    <*> toleranceLabel.withDefault fields defaults.tolerance Check.nonNegative
    <*> pageSizeLabel.withDefault fields defaults.pageSize Check.positive

/-- Reads settings. -/
def check : Check QuerySettings := Check.record ofFields

/-- The settings as the fields of an object. -/
def toFields (settings : QuerySettings) : Fields :=
  [(aliasesLabel.name, .array (settings.implicitAliases.map .string)),
    (toleranceLabel.name, .float settings.tolerance.val),
    (pageSizeLabel.name, .int settings.pageSize.val)]

/-- How operands are compared under the settings. -/
def comparison (settings : QuerySettings) : Comparison := ⟨settings.tolerance.val, compareOperands⟩

end QuerySettings

end DocQuery
