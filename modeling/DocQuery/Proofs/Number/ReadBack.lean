/-
**Numbers read back from their texts.**

* `digitCount_bounds`: the estimated number of digits is right for every number that occurs;
* `ofDecimal_scale`: zeros at the end of a decimal number do not change what it is rounded to;
* `readsBack_exactDecimal`, `readsBack_shortestDecimal`: the exact decimal of a magnitude reads
  back, and so does the shortest one;
* `positionalText_reads`: the digits that a finite number is written with read back as the number.
-/

import DocQuery.Number.Shortest
import DocQuery.Query.Lexer

namespace DocQuery

/-! ### Numbers of digits -/

/-- The estimate is no more than the decimal logarithm. -/
theorem power_ten_le_power_two {bits estimate : Nat} (less : 4096 * estimate ≤ 1233 * bits) :
    power 10 estimate ≤ power 2 bits := by
  have scale : power 10 1233 ≤ power 2 4096 := by decide +kernel
  refine le_of_power_le (show 4096 ≠ 0 by decide) ?_
  calc power (power 10 estimate) 4096 = power 10 (estimate * 4096) := (power_mul ..).symm
    _ ≤ power 10 (1233 * bits) := power_le_power (by decide) (by omega)
    _ = power (power 10 1233) bits := power_mul ..
    _ ≤ power (power 2 4096) bits := power_left_mono scale bits
    _ = power 2 (4096 * bits) := (power_mul ..).symm
    _ = power (power 2 bits) 4096 := by rw [Nat.mul_comm, power_mul]

/-- The estimate is less than the decimal logarithm by two digits at most. -/
theorem power_two_le_power_ten {bits digits : Nat} (more : 28 * bits ≤ 93 * digits) :
    power 2 bits ≤ power 10 digits := by
  have scale : power 2 93 ≤ power 10 28 := by decide +kernel
  refine le_of_power_le (show 93 ≠ 0 by decide) ?_
  calc power (power 2 bits) 93 = power 2 (bits * 93) := (power_mul ..).symm
    _ = power (power 2 93) bits := by rw [Nat.mul_comm, power_mul]
    _ ≤ power (power 10 28) bits := power_left_mono scale bits
    _ = power 10 (28 * bits) := (power_mul ..).symm
    _ ≤ power 10 (93 * digits) := power_le_power (by decide) more
    _ = power (power 10 digits) 93 := by rw [Nat.mul_comm, power_mul]

/-- Numbers of at most 13000 binary digits. The double precision numbers need no more than 4600. -/
def Moderate (n : Nat) : Prop := n < power 2 13000

theorem Moderate.mono {n other : Nat} (moderate : Moderate other) (less : n ≤ other) :
    Moderate n := Nat.lt_of_le_of_lt less moderate

/-- The number of digits of a moderate number is right. -/
theorem digitCount_bounds {n : Nat} (positive : n ≠ 0) (moderate : Moderate n) :
    power 10 (digitCount n - 1) ≤ n ∧ n < power 10 (digitCount n) := by
  have bits : n.log2 < 13000 := (log2_lt_power positive).mpr moderate
  have least : power 2 n.log2 ≤ n := Nat.log2_self_le positive
  have most : n < power 2 (n.log2 + 1) := (log2_lt_power positive).mp (Nat.lt_succ_self _)
  have lower : power 10 (n.log2 * 1233 / 4096) ≤ power 2 n.log2 :=
    power_ten_le_power_two (by omega)
  have upper : power 2 (n.log2 + 1) ≤ power 10 (n.log2 * 1233 / 4096 + 2) :=
    power_two_le_power_ten (by omega)
  rw [show digitCount n = if n < power 10 (n.log2 * 1233 / 4096 + 1) then _ else _ from rfl]
  split
  · next short => exact ⟨Nat.le_trans lower least, short⟩
  · next long => exact ⟨Nat.le_of_not_lt long, Nat.lt_of_lt_of_le most upper⟩

theorem digitCount_pos (n : Nat) : 0 < digitCount n := by
  rw [show digitCount n = if n < power 10 (n.log2 * 1233 / 4096 + 1) then _ else _ from rfl]
  split <;> exact Nat.succ_pos _

/-- A number has no more digits than its bound. -/
theorem lt_of_power_ten_lt {fewer more n : Nat} (least : power 10 fewer ≤ n)
    (most : n < power 10 more) : fewer < more := by
  refine Nat.lt_of_not_le fun reverse => ?_
  have := power_le_power (show 0 < 10 by decide) reverse
  omega

theorem digitCount_scale {n zeros : Nat} (positive : n ≠ 0)
    (moderate : Moderate (n * power 10 zeros)) :
    digitCount (n * power 10 zeros) = digitCount n + zeros := by
  have scale : 0 < power 10 zeros := power_pos (by decide) zeros
  obtain ⟨least, most⟩ := digitCount_bounds positive
    (moderate.mono (Nat.le_mul_of_pos_right n scale))
  obtain ⟨least', most'⟩ := digitCount_bounds
    (Nat.mul_ne_zero positive (Nat.ne_of_gt scale)) moderate
  have less : power 10 (digitCount n - 1 + zeros) ≤ n * power 10 zeros := by
    rw [power_add]
    exact Nat.mul_le_mul_right _ least
  have greater : n * power 10 zeros < power 10 (digitCount n + zeros) := by
    rw [power_add]
    exact Nat.mul_lt_mul_of_pos_right most scale
  have first := lt_of_power_ten_lt less most'
  have second := lt_of_power_ten_lt least' greater
  have some := digitCount_pos n
  have some' := digitCount_pos (n * power 10 zeros)
  omega

/-! ### Rounding -/

/-- Rounding depends on the quotient only. -/
theorem divideRounded_scale {factor : Nat} (positive : 0 < factor) (numerator denominator : Nat) :
    divideRounded (factor * numerator) (factor * denominator) =
      divideRounded numerator denominator := by
  have twice : 2 * (factor * (numerator % denominator)) =
      factor * (2 * (numerator % denominator)) := Nat.mul_left_comm ..
  simp only [divideRounded, Nat.mul_div_mul_left _ _ positive, Nat.mul_mod_mul_left, twice,
    Nat.mul_lt_mul_left positive]

theorem roundUnits_scale {factor : Nat} (positive : 0 < factor) (numerator denominator : Nat) :
    roundUnits (factor * numerator) (factor * denominator) = roundUnits numerator denominator := by
  simp only [roundUnits, Nat.mul_div_mul_left _ _ positive, Nat.mul_assoc,
    divideRounded_scale positive]

/-- A representable magnitude is rounded to itself. -/
theorem roundUnits_one {units : Nat} (representable : Representable units) :
    roundUnits units 1 = units := by
  have whole := representable.2
  have quotient := Nat.div_mul_cancel (Nat.dvd_of_mod_eq_zero whole)
  have exact : ¬ 0 < power 2 (units.log2 - 52) → False := fun none => none (power_two_pos _)
  simp only [roundUnits, divideRounded, Nat.div_one, Nat.one_mul, whole]
  split
  · exact quotient
  · next refused => exact (exact refused).elim

namespace Binary64

variable (negative : Bool)

theorem ofUnits_congr {numerator denominator numerator' denominator' : Nat}
    (same : roundUnits numerator denominator = roundUnits numerator' denominator') :
    ofUnits negative numerator denominator = ofUnits negative numerator' denominator' := by
  simp only [ofUnits, same]

theorem ofRatio_scale {factor : Nat} (positive : 0 < factor) (numerator denominator : Nat) :
    ofRatio negative (factor * numerator) (factor * denominator) =
      ofRatio negative numerator denominator := by
  refine ofUnits_congr negative ?_
  rw [Nat.mul_assoc, roundUnits_scale positive]

/-- Zeros at the end of the coefficient do not change what a decimal number is rounded to. -/
theorem ofDecimal_scale {coefficient zeros : Nat} {exponent exponent' : Int}
    (moderate : Moderate (coefficient * power 10 zeros)) (same : exponent' + zeros = exponent) :
    ofDecimal negative ⟨coefficient * power 10 zeros, exponent'⟩ =
      ofDecimal negative ⟨coefficient, exponent⟩ := by
  subst same
  by_cases none : coefficient = 0
  · simp [ofDecimal, none]
  have scale : power 10 zeros ≠ 0 := Nat.ne_of_gt (power_pos (by decide) zeros)
  have point : (digitCount (coefficient * power 10 zeros) + exponent' : Int) =
      digitCount coefficient + (exponent' + zeros) := by
    rw [digitCount_scale none moderate]
    omega
  simp only [ofDecimal, Nat.mul_eq_zero, none, scale, or_self, if_false, point]
  refine ite_congr rfl (fun _ => rfl) fun _ => ite_congr rfl (fun _ => rfl) fun _ => ?_
  by_cases whole : 0 ≤ exponent'
  · have total : (exponent' + zeros).toNat = zeros + exponent'.toNat := by omega
    rw [if_pos whole, if_pos (by omega), total, power_add, Nat.mul_assoc]
  · rw [if_neg whole]
    by_cases whole' : 0 ≤ exponent' + zeros
    · have total : zeros = (-exponent').toNat + (exponent' + zeros).toNat := by omega
      have scaled := ofRatio_scale negative (power_pos (show 0 < 10 by decide) (-exponent').toNat)
        (coefficient * power 10 (exponent' + zeros).toNat) 1
      rw [if_pos whole', ← scaled, Nat.mul_one, Nat.mul_left_comm, ← power_add, ← total]
    · have total : (-exponent').toNat = zeros + (-(exponent' + zeros)).toNat := by omega
      rw [if_neg whole', total, power_add, Nat.mul_comm coefficient,
        ofRatio_scale negative (power_pos (by decide) zeros)]

/-- A decimal number is rounded to a number. -/
theorem ofDecimal_ne_nan (decimal : Decimal) : ofDecimal negative decimal ≠ .nan := by
  have units : ∀ numerator denominator, ofUnits negative numerator denominator ≠ .nan := by
    intro numerator denominator
    unfold ofUnits
    split <;> exact nofun
  simp only [ofDecimal]
  split
  · exact nofun
  split
  · exact nofun
  split
  · exact nofun
  split <;> exact units _ _

/-- A finite number has no more than 310 digits before the point. -/
theorem point_le_of_finite {negative sign : Bool} {decimal : Decimal} {units : Nat}
    {representable : Representable units}
    (finite : ofDecimal negative decimal = .finite sign units representable)
    (positive : decimal.coefficient ≠ 0) :
    (digitCount decimal.coefficient : Int) + decimal.exponent ≤ 310 := by
  refine Int.not_lt.mp fun large => ?_
  simp only [ofDecimal, positive, if_false, large, if_true] at finite
  cases finite

end Binary64

/-! ### Trailing zeros -/

theorem stripZeros_coefficient_le (fuel coefficient : Nat) (exponent : Int) :
    (stripZeros fuel coefficient exponent).coefficient ≤ coefficient := by
  fun_induction stripZeros fuel coefficient exponent with
  | case1 coefficient exponent => exact Nat.le_refl _
  | case2 fuel coefficient exponent zero ih => exact Nat.le_trans ih (Nat.div_le_self _ _)
  | case3 fuel coefficient exponent other => exact Nat.le_refl _

theorem ofDecimal_stripZeros (negative : Bool) (fuel coefficient : Nat) (exponent : Int)
    (moderate : Moderate coefficient) :
    Binary64.ofDecimal negative (stripZeros fuel coefficient exponent) =
      Binary64.ofDecimal negative ⟨coefficient, exponent⟩ := by
  fun_induction stripZeros fuel coefficient exponent with
  | case1 coefficient exponent => rfl
  | case2 fuel coefficient exponent zero ih =>
    have whole : coefficient / 10 * power 10 1 = coefficient :=
      Nat.div_mul_cancel (Nat.dvd_of_mod_eq_zero zero)
    have scaled : Binary64.ofDecimal negative ⟨coefficient / 10 * power 10 1, exponent⟩ =
        Binary64.ofDecimal negative ⟨coefficient / 10, exponent + 1⟩ :=
      Binary64.ofDecimal_scale negative (by rwa [whole]) rfl
    rw [ih (moderate.mono (Nat.div_le_self _ _)), ← scaled, whole]
  | case3 fuel coefficient exponent other => rfl

namespace Decimal

theorem normalize_coefficient_le (decimal : Decimal) :
    decimal.normalize.coefficient ≤ decimal.coefficient := by
  unfold normalize
  split
  · exact Nat.zero_le _
  · exact stripZeros_coefficient_le ..

theorem ofDecimal_normalize (negative : Bool) (decimal : Decimal)
    (moderate : Moderate decimal.coefficient) :
    Binary64.ofDecimal negative decimal.normalize = Binary64.ofDecimal negative decimal := by
  unfold normalize
  split
  · next none => simp [Binary64.ofDecimal, none]
  · exact ofDecimal_stripZeros negative _ _ _ moderate

end Decimal

/-! ### Reading back -/

namespace Binary64

/-- The number with another sign. -/
def withSign (negative : Bool) : Binary64 → Binary64
  | .nan => .nan
  | .infinite _ => .infinite negative
  | .finite _ units representable => .finite negative units representable

theorem ofUnits_withSign (negative : Bool) (numerator denominator : Nat) :
    ofUnits negative numerator denominator =
      (ofUnits false numerator denominator).withSign negative := by
  unfold ofUnits
  split <;> rfl

/-- The sign does not change the magnitude that a decimal number is rounded to. -/
theorem ofDecimal_withSign (negative : Bool) (decimal : Decimal) :
    ofDecimal negative decimal = (ofDecimal false decimal).withSign negative := by
  simp only [ofDecimal]
  split
  · rfl
  split
  · rfl
  split
  · rfl
  split
  · exact ofUnits_withSign ..
  · exact ofUnits_withSign ..

end Binary64

theorem ofDecimal_of_readsBack {units : Nat} {decimal : Decimal}
    (representable : Representable units) (reads : readsBack units decimal) (negative : Bool) :
    Binary64.ofDecimal negative decimal = .finite negative units representable := by
  rw [Binary64.ofDecimal_withSign]
  unfold readsBack at reads
  split at reads
  · next sign read _ found =>
    obtain rfl : read = units := by simpa using reads
    rw [found]
    rfl
  · cases reads

/-- A decimal number that is rounded to a magnitude reads back as it. -/
theorem readsBack_of_ofUnits {units numerator denominator : Nat} {decimal : Decimal}
    (representable : Representable units)
    (found : Binary64.ofDecimal false decimal = Binary64.ofUnits false numerator denominator)
    (rounded : roundUnits numerator denominator = units) : readsBack units decimal := by
  subst rounded
  unfold readsBack
  rw [found, Binary64.ofUnits, dif_pos representable.1]
  exact beq_self_eq_true _

/-- The exact decimal of a magnitude has a moderate coefficient, with the point not too far away. -/
theorem exactDecimal_bounds {units : Nat} (representable : Representable units)
    (positive : units ≠ 0) : Moderate (units * power 5 1074 + 1) ∧
      744 < digitCount (units * power 5 1074) ∧ digitCount (units * power 5 1074) ≤ 1384 := by
  have least : power 5 1074 ≤ units * power 5 1074 :=
    Nat.le_mul_of_pos_left _ (Nat.pos_of_ne_zero positive)
  have most : units * power 5 1074 < power 2 2098 * power 5 1074 :=
    Nat.mul_lt_mul_of_pos_right representable.1 (power_pos (by decide) _)
  have moderate : Moderate (units * power 5 1074 + 1) :=
    Nat.lt_of_le_of_lt most (by decide +kernel)
  obtain ⟨lower, upper⟩ := digitCount_bounds
    (Nat.mul_ne_zero positive (Nat.ne_of_gt (power_pos (by decide) _)))
    (moderate.mono (Nat.le_succ _))
  have scale : power 10 744 ≤ power 5 1074 := by decide +kernel
  have scale' : power 2 2098 * power 5 1074 ≤ power 10 1384 := by decide +kernel
  have fewer := lt_of_power_ten_lt (Nat.le_trans scale least) upper
  have more := lt_of_power_ten_lt lower (Nat.lt_of_lt_of_le most scale')
  exact ⟨moderate, fewer, by omega⟩

/-- The exact decimal of a magnitude is rounded as a quotient. -/
theorem ofDecimal_exactDecimal {units : Nat} (representable : Representable units)
    (positive : units ≠ 0) : Binary64.ofDecimal false (exactDecimal units) =
      Binary64.ofRatio false (units * power 5 1074) (power 10 1074) := by
  obtain ⟨-, fewer, more⟩ := exactDecimal_bounds representable positive
  have some : units * power 5 1074 ≠ 0 :=
    Nat.mul_ne_zero positive (Nat.ne_of_gt (power_pos (by decide) _))
  have large : ¬ 310 < (digitCount (units * power 5 1074) + -1074 : Int) := by omega
  have small : ¬ (digitCount (units * power 5 1074) + -1074 : Int) < -330 := by omega
  have fraction : ¬ (0 : Int) ≤ -1074 := by decide
  have exponent : (- -1074 : Int).toNat = 1074 := by decide
  simp only [exactDecimal, Binary64.ofDecimal, some, large, small, fraction, if_false, exponent]

/-- The exact decimal of a magnitude reads back. -/
theorem readsBack_exactDecimal {units : Nat} (representable : Representable units)
    (positive : units ≠ 0) : readsBack units (exactDecimal units) := by
  have scaled : units * power 5 1074 * power 2 1074 = power 10 1074 * units := by
    rw [Nat.mul_assoc, ← mul_power, Nat.mul_comm]
  have rounded : roundUnits (units * power 5 1074 * power 2 1074) (power 10 1074) = units :=
    calc roundUnits (units * power 5 1074 * power 2 1074) (power 10 1074)
      _ = roundUnits (power 10 1074 * units) (power 10 1074 * 1) := by rw [scaled, Nat.mul_one]
      _ = roundUnits units 1 := roundUnits_scale (power_pos (by decide) 1074) units 1
      _ = units := roundUnits_one representable
  exact readsBack_of_ofUnits representable (ofDecimal_exactDecimal representable positive) rounded

theorem neighbours_le {coefficient grid candidate : Nat}
    (member : candidate ∈ neighbours coefficient grid) : candidate ≤ coefficient + 1 := by
  have below : coefficient / grid ≤ coefficient := Nat.div_le_self _ _
  simp only [neighbours] at member
  split at member <;>
  · simp only [List.mem_cons, List.not_mem_nil, or_false] at member
    omega

theorem shortestFrom_coefficient_le (units : Nat) (exact : Decimal) (digits fuel : Nat) :
    (shortestFrom units exact digits fuel).coefficient ≤ exact.coefficient + 1 := by
  induction fuel generalizing digits with
  | zero => exact Nat.le_succ _
  | succ fuel ih =>
    rw [shortestFrom]
    split
    · next candidate found =>
      obtain ⟨coefficient, member, rfl⟩ := List.mem_map.mp (List.mem_of_find?_eq_some found)
      exact neighbours_le member
    · exact ih _

/-- The shortest decimal of a magnitude reads back. -/
theorem readsBack_shortestDecimal {units : Nat} (representable : Representable units) :
    readsBack units (shortestDecimal units) := by
  unfold shortestDecimal
  split
  · next none =>
    subst none
    rfl
  · next positive =>
    exact readsBack_shortestFrom units _ (readsBack_exactDecimal representable positive) 1 17

theorem moderate_shortestDecimal {units : Nat} (representable : Representable units) :
    Moderate (shortestDecimal units).coefficient := by
  unfold shortestDecimal
  split
  · exact power_two_pos _
  · next positive =>
    exact (exactDecimal_bounds representable positive).1.mono (shortestFrom_coefficient_le ..)

/-! ### Digits -/

/-- Characters of a kind are split off where one of another kind follows. -/
theorem takeWhile_append_stop {p : Char → Bool} {cs rest : List Char} (all : ∀ c ∈ cs, p c)
    (stop : ∀ c ∈ rest.head?, p c = false) :
    (cs ++ rest).takeWhile p = cs ∧ (cs ++ rest).dropWhile p = rest := by
  have none : rest.takeWhile p = [] ∧ rest.dropWhile p = rest := by
    cases rest with
    | nil => exact ⟨rfl, rfl⟩
    | cons c rest => simp [stop c rfl]
  rw [List.takeWhile_append_of_pos all, List.dropWhile_append_of_pos all, none.1, none.2]
  exact ⟨List.append_nil cs, rfl⟩

theorem asciiValue_eq (digits : List Char) : asciiValue digits = Nat.ofDigitChars 10 digits 0 := rfl

/-- The digits of a number read back. -/
theorem asciiValue_digitChars (n : Nat) : asciiValue (digitChars n) = n :=
  Nat.ofDigitChars_ten_toDigits

theorem isAsciiDigit_digitChars {n : Nat} {c : Char} (member : c ∈ digitChars n) :
    isAsciiDigit c := by
  have digit := Nat.isDigit_of_mem_toDigits (by decide) (by decide) member
  simpa [isAsciiDigit, Char.isDigit, Char.le_def] using digit

/-- Digits denote a number with no more digits. -/
theorem foldl_digits_lt {digits : List Char} (all : ∀ c ∈ digits, isAsciiDigit c) (value : Nat) :
    digits.foldl (fun value c => 10 * value + asciiDigitValue c) value <
      (value + 1) * power 10 digits.length := by
  induction digits generalizing value with
  | nil => exact Nat.lt_of_lt_of_eq (Nat.lt_succ_self value) (Nat.mul_one _).symm
  | cons c digits ih =>
    have digit := all c List.mem_cons_self
    simp only [isAsciiDigit, Bool.and_eq_true, decide_eq_true_eq] at digit
    have small : asciiDigitValue c < 10 := by
      have most : c.toNat ≤ '9'.toNat := digit.2
      simp only [asciiDigitValue]
      exact Nat.lt_of_le_of_lt (Nat.sub_le_sub_right most _) (by decide)
    refine Nat.lt_of_lt_of_le (ih (fun d member => all d (List.mem_cons_of_mem c member)) _) ?_
    rw [List.length_cons, Nat.add_comm digits.length, power_add, ← Nat.mul_assoc]
    have step : 10 * value + asciiDigitValue c + 1 ≤ (value + 1) * 10 := by omega
    exact Nat.mul_le_mul_right _ step

theorem asciiValue_lt {digits : List Char} (all : ∀ c ∈ digits, isAsciiDigit c) :
    asciiValue digits < power 10 digits.length :=
  Nat.lt_of_lt_of_eq (foldl_digits_lt all 0) (Nat.one_mul _)

theorem digitChars_ne_nil (n : Nat) : digitChars n ≠ [] := Nat.toDigits_ne_nil

theorem ne_of_isAsciiDigit {c d : Char} (digit : isAsciiDigit c)
    (other : isAsciiDigit d = false) : c ≠ d := by
  rintro rfl
  rw [digit] at other
  cases other

/-- The first character of a number is a digit. -/
theorem exists_digitChars (n : Nat) : ∃ c more, digitChars n = c :: more ∧ isAsciiDigit c := by
  cases digits : digitChars n with
  | nil => exact absurd digits (digitChars_ne_nil n)
  | cons c more =>
    exact ⟨c, more, rfl, isAsciiDigit_digitChars (n := n) (digits ▸ List.mem_cons_self)⟩

theorem length_digitChars_le {n digits : Nat} (positive : 0 < digits) :
    (digitChars n).length ≤ digits ↔ n < power 10 digits :=
  Nat.length_toDigits_le_iff (by decide) positive

/-- Zeros in front of digits do not count. -/
theorem asciiValue_zeros_append (count : Nat) (digits : List Char) :
    asciiValue (List.replicate count '0' ++ digits) = asciiValue digits := by
  rw [asciiValue_eq, Nat.ofDigitChars_append, Nat.ofDigitChars_replicate_zero, Nat.mul_zero]
  rfl

/-- Zero is the only number with a zero in front. -/
theorem digitChars_leading_zero {n : Nat} {digits : List Char}
    (leading : digitChars n = '0' :: digits) : digits = [] := by
  refine Decidable.byContradiction fun some => ?_
  have all : ∀ c ∈ digits, isAsciiDigit c := fun c member =>
    isAsciiDigit_digitChars (leading ▸ List.mem_cons_of_mem _ member)
  have same : asciiValue digits = n := by
    rw [← asciiValue_digitChars n, leading]
    exact (asciiValue_zeros_append 1 digits).symm
  have fewer : (digitChars n).length ≤ digits.length :=
    (length_digitChars_le (List.length_pos_iff.mpr some)).mpr (same ▸ asciiValue_lt all)
  rw [leading] at fewer
  exact Nat.not_succ_le_self _ fewer

/-- Each zero behind digits makes ten times the number. -/
theorem asciiValue_append_zeros (digits : List Char) (count : Nat) :
    asciiValue (digits ++ List.replicate count '0') = asciiValue digits * power 10 count := by
  rw [asciiValue_eq, Nat.ofDigitChars_append, Nat.ofDigitChars_replicate_zero, Nat.mul_comm]
  rfl

/-- Some characters are digits with a point among them. -/
structure Pointed (cs whole decimals : List Char) : Prop where
  split : cs = whole ++ '.' :: decimals
  whole_ne_nil : whole ≠ []
  decimals_ne_nil : decimals ≠ []
  digits : ∀ c ∈ whole ++ decimals, isAsciiDigit c

/-- Digits with a point denote the number with the given exponent, if need be with zeros at the
end. -/
theorem placePoint_pointed (coefficient : Nat) (exponent : Int) :
    ∃ whole decimals zeros, Pointed
        (placePoint (digitChars coefficient) ((digitChars coefficient).length + exponent))
        whole decimals ∧
      asciiValue (whole ++ decimals) = coefficient * power 10 zeros ∧
      -(decimals.length : Int) + zeros = exponent ∧ (zeros = 0 ∨ (zeros : Int) = exponent + 1) := by
  have digit : ∀ c ∈ digitChars coefficient, isAsciiDigit c := fun _ => isAsciiDigit_digitChars
  have zero : ∀ count, ∀ c ∈ List.replicate count '0', isAsciiDigit c := by
    intro count c member
    obtain rfl := List.eq_of_mem_replicate member
    rfl
  have value := asciiValue_digitChars coefficient
  have some := List.length_pos_iff.mpr (digitChars_ne_nil coefficient)
  generalize digitChars coefficient = digits at digit value some
  unfold placePoint
  split
  · next before =>
    generalize countEq : (-((digits.length : Int) + exponent)).toNat = count
    refine ⟨['0'], List.replicate count '0' ++ digits, 0, ⟨rfl, by simp, ?_, ?_⟩, ?_, ?_, .inl rfl⟩
    · exact List.append_ne_nil_of_right_ne_nil _ (List.length_pos_iff.mp some)
    · intro c member
      rcases List.mem_append.mp member with first | member
      · exact zero 1 c first
      rcases List.mem_append.mp member with padding | member
      · exact zero count c padding
      · exact digit c member
    · rw [← List.append_assoc, show ['0'] ++ List.replicate count '0' =
        List.replicate (count + 1) '0' from rfl, asciiValue_zeros_append, value]
      exact (Nat.mul_one _).symm
    · rw [List.length_append, List.length_replicate]
      omega
  · split
    · next positive behind =>
      generalize countEq : ((digits.length : Int) + exponent).toNat - digits.length = count
      refine ⟨digits ++ List.replicate count '0', ['0'], count + 1, ⟨?_, ?_, by simp, ?_⟩, ?_, ?_,
        .inr ?_⟩
      · simp
      · exact List.append_ne_nil_of_left_ne_nil (List.length_pos_iff.mp some) _
      · intro c member
        rw [List.append_assoc] at member
        rcases List.mem_append.mp member with member | padding
        · exact digit c member
        rcases List.mem_append.mp padding with padding | last
        · exact zero count c padding
        · exact zero 1 c last
      · rw [List.append_assoc, show List.replicate count '0' ++ ['0'] =
          List.replicate (count + 1) '0' from List.replicate_succ'.symm, asciiValue_append_zeros,
          value]
      · simp only [List.length_singleton]
        omega
      · omega
    · next positive inside =>
      generalize countEq : ((digits.length : Int) + exponent).toNat = count at inside
      refine ⟨digits.take count, digits.drop count, 0, ⟨?_, ?_, ?_, ?_⟩, ?_, ?_, .inl rfl⟩
      · simp
      · exact List.length_pos_iff.mp (by rw [List.length_take]; omega)
      · exact List.length_pos_iff.mp (by rw [List.length_drop]; omega)
      · rwa [List.take_append_drop]
      · rw [List.take_append_drop, value]
        exact (Nat.mul_one _).symm
      · rw [List.length_drop]
        omega

/-- **The digits that a finite number is written with read back as the number.** -/
theorem positional_reads {units : Nat} (representable : Representable units) :
    ∃ whole decimals, Pointed (shortestDecimal units).positional.toList whole decimals ∧
      ∀ negative, Binary64.ofDecimal negative
        ⟨asciiValue (whole ++ decimals), -(decimals.length : Int)⟩ =
          .finite negative units representable := by
  have moderate := moderate_shortestDecimal representable
  have reads := ofDecimal_of_readsBack representable (readsBack_shortestDecimal representable)
  have normal : ∀ negative, Binary64.ofDecimal negative (shortestDecimal units).normalize =
      .finite negative units representable := fun negative =>
    ((shortestDecimal units).ofDecimal_normalize negative moderate).trans (reads negative)
  have bounded := moderate.mono (shortestDecimal units).normalize_coefficient_le
  rw [Decimal.positional, String.toList_ofList]
  generalize (shortestDecimal units).normalize = decimal at normal bounded
  obtain ⟨coefficient, exponent⟩ := decimal
  obtain ⟨whole, decimals, zeros, pointed, value, size, few⟩ :=
    placePoint_pointed coefficient exponent
  refine ⟨whole, decimals, pointed, fun negative => ?_⟩
  rw [value, ← normal negative]
  refine Binary64.ofDecimal_scale negative ?_ size
  -- Zeros are put at the end only if the number is whole, and then it has 310 digits at most.
  rcases few with rfl | few
  · exact bounded.mono (Nat.le_of_eq (Nat.mul_one _))
  by_cases none : coefficient = 0
  · subst none
    rw [Nat.zero_mul]
    exact power_two_pos _
  have point := Binary64.point_le_of_finite (normal false) none
  have below := (digitCount_bounds none bounded).2
  refine Nat.lt_trans (Nat.mul_lt_mul_of_pos_right below (power_pos (by decide) zeros)) ?_
  rw [← power_add]
  refine Nat.lt_of_le_of_lt (power_le_power (by decide) (show _ ≤ 311 from ?_)) (by decide +kernel)
  simp only at point
  omega

end DocQuery
