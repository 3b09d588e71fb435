/-
**The days of the calendar, one after the other.**

* `DaysTo`: how many days a date is behind the first of January of year 1, counted day by day, from
  month to month and from year to year;
* `daysBeforeMonth_succ`, `daysBeforeYear_succ`: the days before a month and before a year add up;
* `daysTo_iff`: the number of a date is the number of days so counted, and it is so for the dates
  that exist.
-/

import DocQuery.Time.Instant

namespace DocQuery

/-- A date that exists, from year 1 on. -/
structure IsDate (year month day : Nat) : Prop where
  year_pos : 1 ≤ year
  month_pos : 1 ≤ month
  month_le : month ≤ 12
  day_pos : 1 ≤ day
  day_le : day ≤ monthLength year month

theorem isDate_iff {year month day : Nat} : IsDate year month day ↔
    1 ≤ year ∧ (1 ≤ month ∧ month ≤ 12) ∧ 1 ≤ day ∧ day ≤ monthLength year month :=
  ⟨fun ⟨year_pos, month_pos, month_le, day_pos, day_le⟩ =>
      ⟨year_pos, ⟨month_pos, month_le⟩, day_pos, day_le⟩,
    fun ⟨year_pos, ⟨month_pos, month_le⟩, day_pos, day_le⟩ =>
      ⟨year_pos, month_pos, month_le, day_pos, day_le⟩⟩

instance (year month day : Nat) : Decidable (IsDate year month day) :=
  decidable_of_iff _ isDate_iff.symm

/-- A date is so many days behind the first of January of year 1. -/
inductive DaysTo : Nat → Nat → Nat → Nat → Prop
  | first : DaysTo 1 1 1 0
  | nextDay {year month day days : Nat} (counted : DaysTo year month day days)
    (more : day < monthLength year month) : DaysTo year month (day + 1) (days + 1)
  | nextMonth {year month days : Nat} (counted : DaysTo year month (monthLength year month) days)
    (more : month < 12) : DaysTo year (month + 1) 1 (days + 1)
  | nextYear {year days : Nat} (counted : DaysTo year 12 31 days) : DaysTo (year + 1) 1 1 (days + 1)

/-! ### Months and years -/

variable {year month day days : Nat}

theorem monthLength_pos (year month : Nat) : 1 ≤ monthLength year month := by
  unfold monthLength
  repeat' split
  all_goals decide

theorem daysBeforeMonth_one (year : Nat) : daysBeforeMonth year 1 = 0 := rfl

theorem daysBeforeMonth_succ (year : Nat) (counts : 1 ≤ month) :
    daysBeforeMonth year (month + 1) = daysBeforeMonth year month + monthLength year month := by
  obtain ⟨index, rfl⟩ := Nat.exists_eq_add_of_le' counts
  rw [daysBeforeMonth, daysBeforeMonth, Nat.add_sub_cancel, Nat.add_sub_cancel, List.range_succ,
    List.foldl_append]
  rfl

/-- The days of a year before its last month. -/
theorem daysBeforeMonth_december (year : Nat) :
    daysBeforeMonth year 12 = if isLeapYear year then 335 else 334 := by
  have months : daysBeforeMonth year 12 = 306 + monthLength year 2 := by
    rw [show 12 = 0 + 12 from rfl]
    iterate 11
      rw [daysBeforeMonth_succ year (Nat.le_add_left 1 _)]
    simp [daysBeforeMonth_one, monthLength]
    omega
  rw [months, monthLength, if_pos rfl]
  split <;> rfl

theorem daysBeforeYear_add (past : Nat) :
    daysBeforeYear (past + 1) + past / 100 = 365 * past + past / 4 + past / 400 := by
  have fewer : past / 100 ≤ past / 4 := Nat.div_le_div_left (by decide) (by decide)
  rw [daysBeforeYear, Nat.add_sub_cancel]
  omega

/-- A leap year is counted by the leap days of the years up to it. -/
theorem leapDays_succ (past : Nat) :
    (past + 1) / 4 + past / 100 + (past + 1) / 400 =
      past / 4 + (past + 1) / 100 + past / 400 + if isLeapYear (past + 1) then 1 else 0 := by
  have leap : isLeapYear (past + 1) ↔
      (past + 1) % 4 = 0 ∧ ((past + 1) % 100 ≠ 0 ∨ (past + 1) % 400 = 0) := by
    simp [isLeapYear]
  simp only [leap]
  split
  · omega
  · omega

theorem daysBeforeYear_succ (counts : 1 ≤ year) :
    daysBeforeYear (year + 1) = daysBeforeYear year + daysBeforeMonth year 12 + 31 := by
  obtain ⟨past, rfl⟩ := Nat.exists_eq_add_of_le' counts
  have before := daysBeforeYear_add past
  have upTo := daysBeforeYear_add (past + 1)
  have leapDays := leapDays_succ past
  rw [daysBeforeMonth_december]
  -- Only sums of quotients matter from here on.
  generalize daysBeforeYear (past + 1) = first, daysBeforeYear (past + 1 + 1) = second,
    past / 4 = a, past / 100 = b, past / 400 = c, (past + 1) / 4 = a', (past + 1) / 100 = b',
    (past + 1) / 400 = c' at *
  split at leapDays
  · next leap =>
    rw [if_pos leap]
    omega
  · next common =>
    rw [if_neg common]
    omega

/-! ### Counting days -/

theorem dayNumber_succ (counts : 1 ≤ day) :
    dayNumber year month (day + 1) = dayNumber year month day + 1 := by
  unfold dayNumber
  omega

/-- A date that is counted exists, and its number is the number of days. -/
theorem DaysTo.eq_dayNumber (counted : DaysTo year month day days) :
    IsDate year month day ∧ days = dayNumber year month day := by
  induction counted with
  | first => exact ⟨⟨by decide, by decide, by decide, by decide, by decide⟩, rfl⟩
  | nextDay counted more ih =>
    obtain ⟨date, rfl⟩ := ih
    exact ⟨{ date with day_pos := Nat.le_add_left 1 _, day_le := more },
      (dayNumber_succ date.day_pos).symm⟩
  | nextMonth counted more ih =>
    obtain ⟨date, rfl⟩ := ih
    refine ⟨⟨date.year_pos, Nat.le_add_left 1 _, more, Nat.le_refl 1, monthLength_pos _ _⟩, ?_⟩
    have day_pos := date.day_pos
    simp only [dayNumber, daysBeforeMonth_succ _ date.month_pos]
    omega
  | nextYear counted ih =>
    obtain ⟨date, rfl⟩ := ih
    refine ⟨⟨Nat.le_add_left 1 _, Nat.le_refl 1, by decide, Nat.le_refl 1, monthLength_pos _ _⟩, ?_⟩
    rw [dayNumber, dayNumber, daysBeforeYear_succ date.year_pos, daysBeforeMonth_one]

/-- The days of a month are counted once its first day is. -/
theorem DaysTo.reach_day {days : Nat} (counted : DaysTo year month 1 days) (index : Nat)
    (inside : index < monthLength year month) : DaysTo year month (index + 1) (days + index) := by
  induction index with
  | zero => exact counted
  | succ index ih => exact .nextDay (ih (Nat.lt_of_succ_lt inside)) inside

/-- The last day of a month is counted once its first day is. -/
theorem DaysTo.reach_last (counted : DaysTo year month 1 days) :
    DaysTo year month (monthLength year month) (days + (monthLength year month - 1)) := by
  have isLast := counted.reach_day (monthLength year month - 1)
    (Nat.sub_lt (monthLength_pos _ _) Nat.one_pos)
  rwa [Nat.sub_add_cancel (monthLength_pos _ _)] at isLast

/-- The months of a year are counted once its first day is. -/
theorem DaysTo.reach_month (counted : DaysTo year 1 1 days) (index : Nat) (inside : index < 12) :
    DaysTo year (index + 1) 1 (days + daysBeforeMonth year (index + 1)) := by
  induction index with
  | zero => exact counted
  | succ index ih =>
    have next := DaysTo.nextMonth (ih (Nat.lt_of_succ_lt inside)).reach_last inside
    have positive := monthLength_pos year (index + 1)
    have days_eq : days + daysBeforeMonth year (index + 1 + 1) =
        days + daysBeforeMonth year (index + 1) + (monthLength year (index + 1) - 1) + 1 := by
      rw [daysBeforeMonth_succ _ (Nat.le_add_left 1 index)]
      omega
    exact days_eq ▸ next

/-- The first days of all years are counted. -/
theorem daysTo_year (index : Nat) : DaysTo (index + 1) 1 1 (daysBeforeYear (index + 1)) := by
  induction index with
  | zero => exact .first
  | succ index ih =>
    have next := DaysTo.nextYear (ih.reach_month 11 (by decide)).reach_last
    exact daysBeforeYear_succ (Nat.le_add_left 1 index) ▸ next

/-- **The number of a date is the number of days that lead to it**, and days lead to the dates that
exist. -/
theorem daysTo_iff : DaysTo year month day days ↔
    IsDate year month day ∧ days = dayNumber year month day := by
  refine ⟨DaysTo.eq_dayNumber, ?_⟩
  rintro ⟨date, rfl⟩
  obtain ⟨year, rfl⟩ := Nat.exists_eq_add_of_le' date.year_pos
  obtain ⟨month, rfl⟩ := Nat.exists_eq_add_of_le' date.month_pos
  obtain ⟨day, rfl⟩ := Nat.exists_eq_add_of_le' date.day_pos
  exact ((daysTo_year year).reach_month month date.month_le).reach_day day date.day_le

end DocQuery
