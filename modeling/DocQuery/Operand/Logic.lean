/-
**Logical operators.**

The second operand of a conjunction or a disjunction is evaluated only if the first one does not
decide. Both are stated for any kind of evaluation, so that what an evaluation leaves behind, a
failure or a trace, is that of the operands that were evaluated.
-/

import DocQuery.Operand.Basic

namespace DocQuery

/-- Whether an operand counts as true on its own: it is neither absent, nor false or zero, nor
without elements. -/
def Operand.isNonEmpty : Operand → Bool
  | .missing => false
  | .json value => !value.isEmptyLike
  | .instant _ | .range .. => true

/-- The conjunction of two conditions. -/
def conjunction {m : Type → Type} [Monad m] (left right : m Bool) : m Bool := do
  if ← left then right else return false

/-- The disjunction of two conditions. -/
def disjunction {m : Type → Type} [Monad m] (left right : m Bool) : m Bool := do
  if ← left then return true else right

end DocQuery
