/-
**Powers of natural numbers.**

* `power`: the built-in power, under a name of its own. The sign `^` stands for the power of
  whatever monoid is in sight, which differs from module to module; `power` is one function.
* `power_add`, `power_mul`, `power_le_power`, `power_dvd_power`, `log2_lt_power`, `log2_power`: its
  laws.
-/

namespace DocQuery

/-- The product of so many equal factors. -/
def power (base count : Nat) : Nat := Nat.pow base count

theorem power_two_pos (count : Nat) : 0 < power 2 count := Nat.two_pow_pos count

theorem power_pos {base : Nat} (positive : 0 < base) (count : Nat) : 0 < power base count :=
  Nat.pow_pos positive

theorem power_succ (base count : Nat) : power base (count + 1) = power base count * base :=
  Nat.pow_succ base count

theorem power_add (base m n : Nat) : power base (m + n) = power base m * power base n :=
  Nat.pow_add base m n

theorem power_mul (base m n : Nat) : power base (m * n) = power (power base m) n :=
  Nat.pow_mul base m n

theorem mul_power (base other count : Nat) :
    power (base * other) count = power base count * power other count :=
  Nat.mul_pow base other count

theorem power_le_power {base m n : Nat} (positive : 0 < base) (fewer : m ≤ n) :
    power base m ≤ power base n :=
  Nat.pow_le_pow_right positive fewer

theorem power_left_mono {base other : Nat} (less : base ≤ other) (count : Nat) :
    power base count ≤ power other count :=
  Nat.pow_le_pow_left less count

theorem le_of_power_le {base other count : Nat} (some : count ≠ 0)
    (less : power base count ≤ power other count) : base ≤ other :=
  (Nat.pow_le_pow_iff_left some).mp less

theorem power_dvd_power (base : Nat) {m n : Nat} (fewer : m ≤ n) :
    power base m ∣ power base n :=
  Nat.pow_dvd_pow base fewer

theorem log2_lt_power {n bits : Nat} (positive : n ≠ 0) : n.log2 < bits ↔ n < power 2 bits :=
  Nat.log2_lt positive

theorem log2_power (bits : Nat) : (power 2 bits).log2 = bits := Nat.log2_two_pow

end DocQuery
