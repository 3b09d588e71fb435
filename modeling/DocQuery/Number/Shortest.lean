/-
**The shortest decimal text of a double precision number.**

Among the decimal numbers that read back as a given number there are some with the fewest digits,
and one of those is nearest.

* `exactDecimal`: the number itself, since every double precision number is a finite decimal;
* `shortestDecimal`: for 1, 2, … 17 digits the two neighbours of the number on that decimal grid are
  tried, the nearer one first, and the first that reads back is taken;
* `readsBack_shortestFrom`: the choice reads back whenever the exact decimal does.
-/

import DocQuery.Number.Binary64

namespace DocQuery

/-- A magnitude as a decimal number, without rounding: one unit is `5 ^ 1074 * 10 ^ -1074`. -/
def exactDecimal (units : Nat) : Decimal := ⟨units * power 5 1074, -1074⟩

/-- Whether a decimal number reads back as the magnitude. -/
def readsBack (units : Nat) (candidate : Decimal) : Bool :=
  match Binary64.ofDecimal false candidate with
  | .finite _ read _ => read == units
  | _ => false

/-- The neighbours of `coefficient` on the grid of multiples of `grid`, the nearer one first. -/
def neighbours (coefficient grid : Nat) : List Nat :=
  let below := coefficient / grid
  let twice := 2 * (coefficient % grid)
  if twice < grid ∨ (twice = grid ∧ below % 2 = 0) then [below, below + 1] else [below + 1, below]

/-- The candidates with a given number of digits. -/
def shortCandidates (exact : Decimal) (digits : Nat) : List Decimal :=
  let dropped := digitCount exact.coefficient - digits
  (neighbours exact.coefficient (power 10 dropped)).map fun coefficient =>
    ⟨coefficient, exact.exponent + dropped⟩

/-- The first candidate that reads back, from a number of digits on, and the exact decimal if none
of the next `fuel` numbers of digits has one. -/
def shortestFrom (units : Nat) (exact : Decimal) : Nat → Nat → Decimal
  | _, 0 => exact
  | digits, fuel + 1 =>
    match (shortCandidates exact digits).find? (readsBack units) with
    | some candidate => candidate
    | none => shortestFrom units exact (digits + 1) fuel

/-- The nearest of the shortest decimal numbers that read back as a magnitude. -/
def shortestDecimal (units : Nat) : Decimal :=
  if units = 0 then ⟨0, 0⟩ else shortestFrom units (exactDecimal units) 1 17

theorem readsBack_shortestFrom (units : Nat) (exact : Decimal) (reads : readsBack units exact)
    (digits fuel : Nat) : readsBack units (shortestFrom units exact digits fuel) := by
  induction fuel generalizing digits with
  | zero => exact reads
  | succ fuel ih =>
    rw [shortestFrom]
    split
    · next found => exact List.find?_some found
    · exact ih _

/-! ### Texts of numbers -/

/-- The sign of a number as it is written. -/
def signText (negative : Bool) : String := if negative then "-" else ""

namespace Binary64

/-- The text of a number in documents, with the words for the values that are not finite. -/
def textWith (x : Binary64) (infinity nan : String) : String :=
  match x with
  | .nan => nan
  | .infinite negative => signText negative ++ infinity
  | .finite negative units _ => signText negative ++ (shortestDecimal units).compact

/-- The text of a number among other text: `inf` and `nan` are words. -/
def text (x : Binary64) : String := x.textWith "inf" "nan"

/-- The text of a number without an exponent. -/
def positionalText : Binary64 → String
  | .nan => "NaN.0"
  | .infinite negative => signText negative ++ "Infinity.0"
  | .finite negative units _ => signText negative ++ (shortestDecimal units).positional

end Binary64

end DocQuery
