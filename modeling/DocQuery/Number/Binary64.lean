/-
**Double precision numbers.**

A finite number is a sign and a magnitude, counted in units of `2 ^ -1074`, the least positive
magnitude there is. All arithmetic on it is exact arithmetic of natural numbers and integers, and
rounds once, to the nearest number and in a tie to the one with an even last digit.

* `representable_roundUnits`: rounding ends at a representable magnitude or beyond the largest one;
* `Binary64.ofRatio`, `Binary64.ofDecimal`, `Binary64.ofInt`: the nearest double precision number,
  infinite beyond the largest;
* `Binary64.units?`: the exact value of a finite number in units;
* `Binary64.lt`, `Binary64.le`: the order of the values, in which no comparison holds of NaN;
* `Binary64.distance`: the rounded absolute difference.
-/

import DocQuery.Number.Decimal

namespace DocQuery

/-! ### Rounding -/

/-- A quotient rounded to the nearest whole number, in a tie to the even one. -/
def divideRounded (numerator denominator : Nat) : Nat :=
  let quotient := numerator / denominator
  let twice := 2 * (numerator % denominator)
  if twice < denominator then quotient
  else if denominator < twice then quotient + 1
  else quotient + quotient % 2

/-- A magnitude that a double precision number can have: it is below `2 ^ 1024`, and all its binary
digits below the first 53 are zero. -/
def Representable (units : Nat) : Prop :=
  units < power 2 2098 ∧ units % power 2 (units.log2 - 52) = 0

instance (units : Nat) : Decidable (Representable units) :=
  inferInstanceAs (Decidable (_ ∧ _))

/-- A quotient rounded to 53 significant binary digits. -/
def roundUnits (numerator denominator : Nat) : Nat :=
  let shift := (numerator / denominator).log2 - 52
  divideRounded numerator (denominator * power 2 shift) * power 2 shift

theorem divideRounded_le (numerator denominator : Nat) :
    divideRounded numerator denominator ≤ numerator / denominator + 1 := by
  simp only [divideRounded]
  split
  · omega
  · split <;> omega

theorem log2_le_of_lt_power {units bits : Nat} (below : units < power 2 (bits + 1)) :
    units.log2 ≤ bits := by
  by_cases zero : units = 0
  · simp [zero]
  · exact Nat.lt_succ_iff.mp ((log2_lt_power zero).mpr below)

/-- A rounded magnitude is representable unless it is too large. -/
theorem representable_roundUnits (numerator denominator : Nat)
    (bounded : roundUnits numerator denominator < power 2 2098) :
    Representable (roundUnits numerator denominator) := by
  refine ⟨bounded, ?_⟩
  simp only [roundUnits]
  generalize shiftEq : (numerator / denominator).log2 - 52 = shift
  have small : numerator / denominator < power 2 (53 + shift) := by
    by_cases zero : numerator / denominator = 0
    · rw [zero]; exact power_two_pos _
    · exact (log2_lt_power zero).mp (by omega)
  have quotient : numerator / (denominator * power 2 shift) < power 2 53 := by
    rw [← Nat.div_div_eq_div_mul]
    refine (Nat.div_lt_iff_lt_mul (power_two_pos shift)).mpr ?_
    rwa [← power_add]
  have rounded := divideRounded_le numerator (denominator * power 2 shift)
  generalize divideRounded numerator (denominator * power 2 shift) = kept at rounded
  by_cases full : kept = power 2 53
  · rw [full, ← power_add, log2_power]
    exact Nat.mod_eq_zero_of_dvd (power_dvd_power 2 (by omega))
  · have below : kept * power 2 shift < power 2 (52 + shift + 1) := by
      rw [show 52 + shift + 1 = 53 + shift by omega, power_add]
      exact Nat.mul_lt_mul_of_pos_right (by omega) (power_two_pos shift)
    refine Nat.mod_eq_zero_of_dvd ?_
    refine Nat.dvd_trans (power_dvd_power 2 ?_) (Nat.dvd_mul_left _ _)
    have := log2_le_of_lt_power below
    omega

/-! ### Numbers -/

/-- A double precision number. -/
inductive Binary64 where
  | nan
  | infinite (negative : Bool)
  | finite (negative : Bool) (units : Nat) (representable : Representable units)
deriving DecidableEq

namespace Binary64

/-- The number nearest to `numerator / denominator` units. -/
def ofUnits (negative : Bool) (numerator denominator : Nat) : Binary64 :=
  if bounded : roundUnits numerator denominator < power 2 2098 then
    .finite negative _ (representable_roundUnits numerator denominator bounded)
  else .infinite negative

/-- The number nearest to `numerator / denominator`. -/
def ofRatio (negative : Bool) (numerator denominator : Nat) : Binary64 :=
  ofUnits negative (numerator * power 2 1074) denominator

/-- Zero. -/
def zero (negative : Bool) : Binary64 := .finite negative 0 ⟨power_two_pos 2098, Nat.zero_mod _⟩

/-- The number nearest to a decimal number. Decimal exponents beyond 310 and below -330 are settled
without a computation: the former are infinite, the latter vanish. -/
def ofDecimal (negative : Bool) (d : Decimal) : Binary64 :=
  if d.coefficient = 0 then zero negative
  else
    let point : Int := digitCount d.coefficient + d.exponent
    if 310 < point then .infinite negative
    else if point < -330 then zero negative
    else if 0 ≤ d.exponent then ofRatio negative (d.coefficient * power 10 d.exponent.toNat) 1
    else ofRatio negative d.coefficient (power 10 (-d.exponent).toNat)

/-- The number nearest to an integer. -/
def ofInt (n : Int) : Binary64 := ofRatio (n < 0) n.natAbs 1

/-! ### Order and distance -/

/-- The value of a finite number in units. -/
def units? : Binary64 → Option Int
  | .finite false units _ => some units
  | .finite true units _ => some (-units)
  | _ => none

/-- Whether the first value is less than the second. -/
def lt : Binary64 → Binary64 → Bool
  | .nan, _ | _, .nan => false
  | .infinite negative, .infinite other => negative && !other
  | .infinite negative, .finite .. => negative
  | .finite .., .infinite negative => !negative
  | .finite s m _, .finite s' m' _ =>
    decide ((if s then -(m : Int) else m) < (if s' then -(m' : Int) else m'))

/-- Whether two values are equal. Both zeros are, NaN is equal to nothing. -/
def same (x y : Binary64) : Bool :=
  match x, y with
  | .nan, _ | _, .nan => false
  | x, y => !x.lt y && !y.lt x

/-- Whether the first value is at most the second. -/
def le (x y : Binary64) : Bool := x.lt y || x.same y

/-- The absolute difference of two values, rounded. -/
def distance : Binary64 → Binary64 → Binary64
  | .nan, _ | _, .nan => .nan
  | .infinite negative, .infinite other => if negative = other then .nan else .infinite false
  | .infinite _, _ | _, .infinite _ => .infinite false
  | .finite s m _, .finite s' m' _ =>
    ofUnits false ((if s then -(m : Int) else m) - (if s' then -(m' : Int) else m')).natAbs 1

/-- The sign of the difference between an integer and a double precision number, both taken
exactly. NaN counts as neither less nor greater. -/
def compareInt (n : Int) : Binary64 → Ordering
  | .nan => .eq
  | .infinite negative => if negative then .gt else .lt
  | .finite s m _ => compare (n * power 2 1074) (if s then -(m : Int) else m)

/-- The sign of the difference between two double precision numbers. -/
def compareWith (x y : Binary64) : Ordering :=
  if x.lt y then .lt else if y.lt x then .gt else .eq

end Binary64

end DocQuery
