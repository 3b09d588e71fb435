/-
**What is wrong with a value from outside.**

A check of a value ends with a checked value, or with all the issues that it found, each at its
place.

* `Fault`: why a value is refused;
* `Checked`: the outcome of a check. Two checks side by side report the issues of both, the first
  one's in front;
* `Checked.andThen`: a check of what another one let through.
-/

namespace DocQuery

/-- Why a value is refused. -/
inductive Fault where
  | missing
  | notText
  | notInteger
  | unreadableInteger
  | oversizedInteger
  | fractional
  | notFinite
  | notNumber
  | unreadableNumber
  /-- The number does not exceed its bound. -/
  | notAbove
  /-- The number is below its bound. -/
  | below
  | notList
  | notDictionary
  | notRecord
  /-- The value is none of the allowed ones. -/
  | notChoice
  /-- A rule of its own refuses the value. -/
  | refused (reason : String)
deriving DecidableEq, Repr

/-- A refused value, with the names of the fields and the numbers of the items that lead to it. -/
structure Issue where
  place : List String
  fault : Fault
deriving DecidableEq, Repr

/-- The outcome of a check. -/
inductive Checked (α : Type) where
  | valid (value : α)
  | invalid (issues : List Issue)

namespace Checked

variable {α β : Type}

/-- Refuses a value for one reason. -/
def refuse (fault : Fault) : Checked α := .invalid [⟨[], fault⟩]

/-- Both outcomes, or the issues of both. -/
def both (first : Checked (α → β)) (second : Checked α) : Checked β :=
  match first, second with
  | .valid f, .valid x => .valid (f x)
  | .valid _, .invalid issues => .invalid issues
  | .invalid issues, .valid _ => .invalid issues
  | .invalid issues, .invalid more => .invalid (issues ++ more)

instance : Applicative Checked where
  pure := .valid
  seq first second := both first (second ())

/-- A further check of a value that was let through. -/
def andThen (outcome : Checked α) (check : α → Checked β) : Checked β :=
  match outcome with
  | .valid value => check value
  | .invalid issues => .invalid issues

/-- The outcome for a part with a name. -/
def within (name : String) (outcome : Checked α) : Checked α :=
  match outcome with
  | .valid value => .valid value
  | .invalid issues => .invalid (issues.map fun issue => ⟨name :: issue.place, issue.fault⟩)

/-- The checked value or the issues. -/
def toExcept : Checked α → Except (List Issue) α
  | .valid value => .ok value
  | .invalid issues => .error issues

end Checked

end DocQuery
