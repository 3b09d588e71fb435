/-
**Read instants are the moments that were written.**

* `WrittenInstant.Denotes`: the moment of a written local date and time, less the offset. Days are
  counted one by one;
* `WrittenInstant.InRange`: every field is one that dates, clocks and offsets show;
* `denotes_of_parse?`: the instant that is read is the moment of what is understood, and
  `exists_parse?` that readable fields in their ranges are read;
* `between_text`: a range test over three written instants compares moments;
* `parse?_written`: all of this. `dateOffset_misread`: an offset behind a date alone is misread.
-/

import DocQuery.Operand.Comparison
import DocQuery.Proofs.Time.Calendar
import DocQuery.Proofs.Time.Written

namespace DocQuery

namespace WrittenInstant

variable {written : WrittenInstant}

/-! ### Moments -/

/-- The moment in microseconds of universal time since the first of January of year 1: the date and
the time of day that are written, less the offset. -/
def Denotes (written : WrittenInstant) (moment : Int) : Prop :=
  ∃ days, DaysTo written.date.year written.date.month.value written.date.day.value days ∧
    moment = (((days * 24 + written.instant.hour) * 60 + written.instant.minute -
      written.zone.minutes) * 60 + written.instant.second) * 1000000 + written.instant.microsecond

/-- Every field is one that calendars, clocks and offsets show. -/
structure InRange (written : WrittenInstant) : Prop where
  isDate : IsDate written.date.year written.date.month.value written.date.day.value
  hour_lt : written.instant.hour < 24
  minute_lt : written.instant.minute < 60
  second_lt : written.instant.second < 60
  offset_lt : ∀ isAhead hours minutes, written.zone = .offset isAhead hours minutes →
    hours.value < 24 ∧ minutes.value < 60

/-- The instants that are accepted. -/
theorem isValid_iff {t : Instant} : t.isValid ↔ IsDate t.year t.month t.day ∧ t.year ≤ 9999 ∧
    t.hour < 24 ∧ t.minute < 60 ∧ t.second < 60 ∧ t.offset.natAbs < 1440 := by
  simp only [Instant.isValid, Bool.and_eq_true, decide_eq_true_eq]
  constructor
  · rintro ⟨⟨⟨⟨⟨⟨⟨⟨⟨year_pos, year_le⟩, month_pos⟩, month_le⟩, day_pos⟩, day_le⟩, hour⟩, minute⟩,
      second⟩, offset⟩
    exact ⟨⟨year_pos, month_pos, month_le, day_pos, day_le⟩, year_le, hour, minute, second, offset⟩
  · rintro ⟨⟨year_pos, month_pos, month_le, day_pos, day_le⟩, year_le, hour, minute, second, offset⟩
    exact ⟨⟨⟨⟨⟨⟨⟨⟨⟨year_pos, year_le⟩, month_pos⟩, month_le⟩, day_pos⟩, day_le⟩, hour⟩, minute⟩,
      second⟩, offset⟩

/-- The moment of an existing date is counted from the days that lead to it. -/
theorem denotes_iff (isDate : IsDate written.date.year written.date.month.value
    written.date.day.value) {moment : Int} :
    written.Denotes moment ↔ moment = written.instant.moment := by
  have same : (((dayNumber written.date.year written.date.month.value written.date.day.value * 24 +
      written.instant.hour) * 60 + written.instant.minute - written.zone.minutes) * 60 +
      written.instant.second) * 1000000 + written.instant.microsecond =
      written.instant.moment := by
    simp only [Instant.moment, instant]
    omega
  constructor
  · rintro ⟨days, counted, rfl⟩
    rw [counted.eq_dayNumber.2, same]
  · rintro rfl
    exact ⟨_, daysTo_iff.mpr ⟨isDate, rfl⟩, same.symm⟩

/-- Whether an offset is written behind a date alone. -/
def isDateOffset (written : WrittenInstant) : Bool :=
  match written.time, written.zone with
  | none, .offset .. => true
  | _, _ => false

/-- Anything else is understood as it is written. -/
theorem asRead_eq (plain : written.isDateOffset = false) : written.asRead = written := by
  obtain ⟨date, time, zone⟩ := written
  cases time with
  | none =>
    cases zone with
    | absent => rfl
    | universal => rfl
    | offset => cases plain
  | some time => rfl

/-- **What is read is the moment of what is understood.** -/
theorem denotes_of_parse? {t : Instant} (read : Instant.parse? written.text = some t) :
    written.asRead.Denotes t.moment := by
  rw [parse?_text, Option.ite_none_right_eq_some, Bool.and_eq_true] at read
  obtain ⟨⟨-, valid⟩, isRead⟩ := read
  obtain rfl := Option.some.inj isRead
  exact (denotes_iff (isValid_iff.mp valid).1).mpr rfl

theorem year_le (date : WrittenDate) : date.year ≤ 9999 := by
  have century := date.century.value_lt
  have yearOfCentury := date.yearOfCentury.value_lt
  rw [WrittenDate.year]
  omega

/-- Readable fields in their ranges are read. -/
theorem exists_parse? (readable : written.isReadable) (inRange : written.InRange) :
    ∃ t, Instant.parse? written.text = some t := by
  refine ⟨written.asRead.instant, ?_⟩
  rw [parse?_text, readable, Bool.true_and, if_pos]
  obtain ⟨isDate, hour, minute, second, offset⟩ := inRange
  obtain ⟨date, time, zone⟩ := written
  have plain (noOffset : zone.minutes.natAbs < 1440) :
      (WrittenInstant.instant ⟨date, time, zone⟩).isValid :=
    isValid_iff.mpr ⟨isDate, year_le date, hour, minute, second, noOffset⟩
  cases zone with
  | absent => cases time <;> exact plain (Nat.zero_lt_succ _)
  | universal => cases time <;> exact plain (Nat.zero_lt_succ _)
  | offset isAhead hours minutes =>
    obtain ⟨hours_lt, minutes_lt⟩ := offset isAhead hours minutes rfl
    cases time with
    | none =>
      exact isValid_iff.mpr ⟨isDate, year_le date, hours_lt, minutes_lt, Nat.zero_lt_succ _,
        Nat.zero_lt_succ _⟩
    | some time =>
      refine plain ?_
      rw [WrittenZone.minutes]
      split
      · omega
      · omega

/-! ### Ranges -/

/-- A written instant is no number: behind the year stands a hyphen. -/
theorem textNumber?_text (written : WrittenInstant) : textNumber? written.text = .ok none := by
  have isDigit : ∀ c ∈ written.date.century.text ++ written.date.yearOfCentury.text,
      isDecimalDigit c := by
    simp only [DigitPair.text, List.mem_append, List.mem_cons, List.not_mem_nil, or_false]
    rintro c ((rfl | rfl) | rfl | rfl) <;> exact WrittenDigit.isDigit _
  obtain ⟨rest, whole⟩ : ∃ rest, written.chars =
      (written.date.century.text ++ written.date.yearOfCentury.text) ++ '-' :: rest :=
    ⟨_, by simp only [chars, WrittenDate.text, List.append_assoc, List.cons_append]; rfl⟩
  have unsigned : signed written.chars = (false, written.chars) := by
    obtain ⟨-, -, notPlus, notMinus⟩ := written.date.century.tens.char_apart
    rw [whole, DigitPair.text, List.cons_append, List.cons_append, signed]
    · exact fun _ same => notMinus (List.cons.inj same).1
    · exact fun _ same => notPlus (List.cons.inj same).1
  have stop : ∀ c ∈ ('-' :: rest).head?, isDecimalDigit c = false := by
    rintro c ⟨⟩
    decide
  obtain ⟨taken, behind⟩ := takeWhile_append_stop isDigit stop
  have noNumeral : numeral? written.chars = none := by
    rw [numeral?, unsigned]
    simp only [whole, taken, behind]
    rfl
  rw [textNumber?, text, String.toList_ofList, trimBlanks_chars, noNumeral]

/-- **A range test over written instants compares the moments that are read.** -/
theorem between_text {lower upper : WrittenInstant} {t first last : Instant}
    (read : Instant.parse? written.text = some t)
    (readLower : Instant.parse? lower.text = some first)
    (readUpper : Instant.parse? upper.text = some last) :
    Comparison.between (.json (.string written.text)) (.json (.string lower.text))
        (.json (.string upper.text)) =
      .ok (decide (first.moment ≤ t.moment) && decide (t.moment ≤ last.moment)) := by
  simp only [Comparison.between, Operand.isAbsent, Operand.toNumber?, textNumber?_text,
    Operand.toInstant?, read, readLower, readUpper]
  rfl

end WrittenInstant

/-- **Written instants are read as the moments that they denote**, as they are understood: only an
offset behind a date alone is taken for the time of day. Readable fields in their ranges are read,
and a range test compares moments, however the three instants are written. -/
theorem parse?_written (written lower upper : WrittenInstant) :
    (∀ t, Instant.parse? written.text = some t → written.asRead.Denotes t.moment) ∧
      (written.isDateOffset = false → written.asRead = written) ∧
      (written.isReadable → written.InRange → ∃ t, Instant.parse? written.text = some t) ∧
      ∀ t first last, Instant.parse? written.text = some t →
        Instant.parse? lower.text = some first → Instant.parse? upper.text = some last →
        ∃ moment least most, written.asRead.Denotes moment ∧ lower.asRead.Denotes least ∧
          upper.asRead.Denotes most ∧
          Comparison.between (.json (.string written.text)) (.json (.string lower.text))
            (.json (.string upper.text)) = .ok (decide (least ≤ moment ∧ moment ≤ most)) := by
  refine ⟨fun t read => WrittenInstant.denotes_of_parse? read, WrittenInstant.asRead_eq,
    fun readable inRange => WrittenInstant.exists_parse? readable inRange, ?_⟩
  intro t first last read readLower readUpper
  refine ⟨t.moment, first.moment, last.moment, WrittenInstant.denotes_of_parse? read,
    WrittenInstant.denotes_of_parse? readLower, WrittenInstant.denotes_of_parse? readUpper, ?_⟩
  rw [WrittenInstant.between_text read readLower readUpper, Bool.decide_and]

/-! ### Instants in ASCII digits -/

/-- The ASCII digit with a value. -/
def WrittenDigit.ascii (value : Fin 10) : WrittenDigit where
  char := Char.ofNat (48 + value)
  isDigit := by
    revert value
    decide

/-- Two ASCII digits with a value. -/
def DigitPair.ascii (value : Fin 100) : DigitPair where
  tens := .ascii ⟨value / 10, by omega⟩
  units := .ascii ⟨value % 10, by omega⟩

/-- A day of the year 2024. -/
def WrittenDate.of2024 (month day : Fin 100) : WrittenDate :=
  ⟨.ascii 20, .ascii 24, .ascii month, .ascii day⟩

/-- A leap day in another zone is a day of March, and a fraction counts to the microsecond. -/
theorem parse?_written_carried :
    Comparison.between (.json (.string "2024-03-01 00:30Z"))
      (.json (.string "2024-02-29T23:30-01:00"))
      (.json (.string "2024-03-01T01:00:00.1234567+00:30")) = .ok true := by
  obtain ⟨-, -, -, compared⟩ := parse?_written
    ⟨.of2024 3 1, some ⟨true, .ascii 0, .ascii 30, none⟩, .universal⟩
    ⟨.of2024 2 29, some ⟨false, .ascii 23, .ascii 30, none⟩, .offset false (.ascii 1) (.ascii 0)⟩
    ⟨.of2024 3 1, some ⟨false, .ascii 1, .ascii 0,
      some ⟨.ascii 0, [1, 2, 3, 4, 5, 6, 7].map .ascii⟩⟩, .offset true (.ascii 0) (.ascii 30)⟩
  obtain ⟨moment, least, most, isMoment, isLeast, isMost, between⟩ :=
    compared _ _ _ rfl rfl rfl
  obtain rfl := (WrittenInstant.denotes_iff (by decide)).mp isMoment
  obtain rfl := (WrittenInstant.denotes_iff (by decide)).mp isLeast
  obtain rfl := (WrittenInstant.denotes_iff (by decide)).mp isMost
  exact between

/-- The documented form allows an offset behind a date alone, but it is taken for the time of day:
half past five in universal time, and not midnight in the zone of India. -/
theorem dateOffset_misread : ∃ written : WrittenInstant, written.text = "2024-01-15+05:30" ∧
    written.isReadable ∧ written.InRange ∧
    ∃ t, Instant.parse? written.text = some t ∧ ¬ written.Denotes t.moment := by
  refine ⟨⟨.of2024 1 15, none, .offset true (.ascii 5) (.ascii 30)⟩, rfl, rfl, ?_, _, rfl, ?_⟩
  · refine ⟨by decide, by decide, by decide, by decide, ?_⟩
    rintro _ _ _ ⟨⟩
    decide
  · intro isMoment
    exact absurd ((WrittenInstant.denotes_iff (by decide)).mp isMoment) (by decide)

end DocQuery
