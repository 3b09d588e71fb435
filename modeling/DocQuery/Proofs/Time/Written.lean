/-
**Written instants and how they are read.**

* `WrittenInstant`: a date `YYYY-MM-DD`, a time `HH:MM`, `HH:MM:SS` or `HH:MM:SS.f…` or none behind
  it, and `Z`, an offset `+HH:MM` or `-HH:MM` or nothing at the end, in digits of any script;
* `WrittenInstant.instant`: the instant with the fields that are written;
* `WrittenInstant.asRead`: the written instant as it is understood. Behind a date alone an offset is
  taken for the time of day;
* `WrittenInstant.isReadable`: whether the digits are the ten ASCII digits, but for those of a
  fraction that do not count;
* `parse?_text`: a written instant is read as what it is understood to be, if its digits can be read
  and the instant exists.
-/

import Mathlib.Data.List.Basic
import Mathlib.Data.List.TakeWhile
import Mathlib.Logic.Basic
import DocQuery.Number.Numeral
import DocQuery.Proofs.Query.Spelling
import DocQuery.Time.Reader

namespace DocQuery

/-! ### Digits -/

/-- A decimal digit of any script. -/
structure WrittenDigit where
  char : Char
  isDigit : isDecimalDigit char

namespace WrittenDigit

def value (digit : WrittenDigit) : Nat := (decimalValue? digit.char).getD 0

/-- Whether a digit is one of the ten ASCII digits. -/
def isPlain (digit : WrittenDigit) : Bool := isAsciiDigit digit.char

end WrittenDigit

theorem decimalValue?_of_isAsciiDigit {c : Char} (digit : isAsciiDigit c) :
    decimalValue? c = some (asciiDigitValue c) := by
  simp only [isAsciiDigit, Bool.and_eq_true, decide_eq_true_eq] at digit
  have least : 48 ≤ c.toNat := digit.1
  have most : c.toNat ≤ 57 := digit.2
  have small : (c.toNat - 48) % 10 = c.toNat - 48 := Nat.mod_eq_of_lt (by omega)
  rw [decimalValue?, decimalRanges, decimalValueIn, if_neg (by omega), if_pos (by omega), small]
  rfl

theorem WrittenDigit.value_of_isPlain {digit : WrittenDigit} (plain : digit.isPlain) :
    digit.value = asciiDigitValue digit.char := by
  rw [value, decimalValue?_of_isAsciiDigit plain, Option.getD_some]

/-- A decimal digit is neither white space nor one of the marks of a written instant. -/
theorem WrittenDigit.char_apart (digit : WrittenDigit) :
    isBlank digit.char = false ∧ digit.char ≠ 'Z' ∧ digit.char ≠ '+' ∧ digit.char ≠ '-' := by
  have noDigit : ∀ code ∈ blankCodes, decimalValueIn decimalRanges code = none := by
    decide +kernel
  have isDigit := digit.isDigit
  refine ⟨Bool.eq_false_iff.mpr fun blank => ?_, ?_, ?_, ?_⟩
  · rw [isDecimalDigit, decimalValue?, noDigit _ (mem_blankCodes blank)] at isDigit
    cases isDigit
  all_goals
    intro same
    rw [same] at isDigit
    exact absurd isDigit (by decide)

/-- Two digits. -/
structure DigitPair where
  tens : WrittenDigit
  units : WrittenDigit

namespace DigitPair

def text (pair : DigitPair) : List Char := [pair.tens.char, pair.units.char]

def value (pair : DigitPair) : Nat := 10 * pair.tens.value + pair.units.value

def isPlain (pair : DigitPair) : Bool := pair.tens.isPlain && pair.units.isPlain

end DigitPair

/-! ### Written instants -/

/-- A date. The year has four digits. -/
structure WrittenDate where
  century : DigitPair
  yearOfCentury : DigitPair
  month : DigitPair
  day : DigitPair

namespace WrittenDate

variable (date : WrittenDate)

def text : List Char :=
  date.century.text ++ date.yearOfCentury.text ++ '-' :: date.month.text ++ '-' :: date.day.text

def year : Nat := 100 * date.century.value + date.yearOfCentury.value

def isPlain : Bool :=
  date.century.isPlain && date.yearOfCentury.isPlain && date.month.isPlain && date.day.isPlain

end WrittenDate

/-- Seconds, with the digits of their fraction if one is written. -/
structure WrittenSeconds where
  second : DigitPair
  fraction : List WrittenDigit

namespace WrittenSeconds

/-- The characters of digits. -/
def digitsText (digits : List WrittenDigit) : List Char := digits.map WrittenDigit.char

/-- A fraction with the point in front of it. -/
def fractionText (digits : List WrittenDigit) : List Char :=
  if digits.isEmpty then [] else '.' :: digitsText digits

def text (seconds : WrittenSeconds) : List Char :=
  ':' :: seconds.second.text ++ fractionText seconds.fraction

/-- The microseconds of a fraction, without what is left of the last one. -/
def microsecond (digits : List WrittenDigit) : Nat :=
  decimalValue (digitsText digits) * power 10 6 / power 10 digits.length

end WrittenSeconds

/-- A time of day behind a date. -/
structure WrittenTime where
  /-- Whether a space separates it from the date, and not the letter `T`. -/
  isSpaced : Bool
  hour : DigitPair
  minute : DigitPair
  seconds : Option WrittenSeconds

namespace WrittenTime

variable (time : WrittenTime)

def separator : Char := if time.isSpaced then ' ' else 'T'

def secondsText : List Char := (time.seconds.map WrittenSeconds.text).getD []

def text : List Char :=
  time.separator :: time.hour.text ++ ':' :: time.minute.text ++ time.secondsText

def second : Nat := (time.seconds.map fun seconds => seconds.second.value).getD 0

def microsecond : Nat :=
  (time.seconds.map fun seconds => WrittenSeconds.microsecond seconds.fraction).getD 0

end WrittenTime

/-- What ends a written instant. -/
inductive WrittenZone where
  /-- Nothing, which stands for universal time as well. -/
  | absent
  | universal
  | offset (isAhead : Bool) (hours minutes : DigitPair)

namespace WrittenZone

def sign (isAhead : Bool) : Char := if isAhead then '+' else '-'

def text : WrittenZone → List Char
  | .absent => []
  | .universal => ['Z']
  | .offset isAhead hours minutes => sign isAhead :: hours.text ++ ':' :: minutes.text

/-- The minutes by which local time is ahead of universal time. -/
def minutes : WrittenZone → Int
  | .absent | .universal => 0
  | .offset isAhead hours minutes =>
    if isAhead then 60 * hours.value + minutes.value else -(60 * hours.value + minutes.value)

def isPlain : WrittenZone → Bool
  | .absent | .universal => true
  | .offset _ hours minutes => hours.isPlain && minutes.isPlain

end WrittenZone

/-- A written instant. -/
structure WrittenInstant where
  date : WrittenDate
  time : Option WrittenTime
  zone : WrittenZone

namespace WrittenInstant

variable (written : WrittenInstant)

def chars : List Char :=
  written.date.text ++ (written.time.map WrittenTime.text).getD [] ++ written.zone.text

def text : String := String.ofList written.chars

/-- The instant with the fields that are written. Without a time it is midnight. -/
def instant : Instant where
  year := written.date.year
  month := written.date.month.value
  day := written.date.day.value
  hour := (written.time.map fun time => time.hour.value).getD 0
  minute := (written.time.map fun time => time.minute.value).getD 0
  second := (written.time.map WrittenTime.second).getD 0
  microsecond := (written.time.map WrittenTime.microsecond).getD 0
  offset := written.zone.minutes

/-- The written instant as it is understood: behind a date alone, an offset is taken for the time of
day, whatever its sign is. -/
def asRead : WrittenInstant :=
  match written.time, written.zone with
  | none, .offset _ hours minutes =>
    { written with time := some ⟨false, hours, minutes, none⟩, zone := .absent }
  | _, _ => written

end WrittenInstant

/-! ### What can be read -/

namespace WrittenZone

/-- Whether anything is written. -/
def isWritten : WrittenZone → Bool
  | .absent => false
  | _ => true

end WrittenZone

/-- Whether a fraction can be read: its first six digits count, and further ones are passed over if
something is behind them. -/
def WrittenSeconds.readsFraction (digits : List WrittenDigit) (zone : WrittenZone) : Bool :=
  (digits.take 6).all WrittenDigit.isPlain && (digits.all WrittenDigit.isPlain || zone.isWritten)

/-- Whether a time of day can be read in front of a zone. -/
def WrittenTime.isReadable (time : WrittenTime) (zone : WrittenZone) : Bool :=
  time.hour.isPlain && time.minute.isPlain &&
    time.seconds.all fun seconds =>
      seconds.second.isPlain && WrittenSeconds.readsFraction seconds.fraction zone

/-- Whether the digits can be read. -/
def WrittenInstant.isReadable (written : WrittenInstant) : Bool :=
  written.date.isPlain && written.time.all (·.isReadable written.zone) && written.zone.isPlain

/-! ### Reading dates and zones -/

namespace InstantReader

theorem twoDigits_text (pair : DigitPair) (rest : List Char) :
    twoDigits (pair.text ++ rest) = if pair.isPlain then some (pair.value, rest) else none := by
  by_cases plain : pair.isPlain
  · rw [if_pos plain]
    rw [DigitPair.isPlain, Bool.and_eq_true] at plain
    rw [DigitPair.value, WrittenDigit.value_of_isPlain plain.1,
      WrittenDigit.value_of_isPlain plain.2]
    exact if_pos (by simpa [WrittenDigit.isPlain] using plain)
  · rw [if_neg plain]
    exact if_neg plain

theorem expect_self (c : Char) (rest : List Char) : expect c (c :: rest) = some rest := if_pos rfl

/-- Going on with what is there under a condition. -/
theorem ite_bind {α β : Type} {p : Prop} [Decidable p] (value : α) (f : α → Option β) :
    (if p then some value else none).bind f = if p then f value else none := by
  split <;> rfl

theorem date_text (written : WrittenDate) (rest : List Char) :
    date (written.text ++ rest) = if written.isPlain then
      some ((written.year, written.month.value, written.day.value), rest) else none := by
  simp only [date, WrittenDate.text, List.append_assoc, List.cons_append, Option.bind_eq_bind,
    twoDigits_text, ite_bind, expect_self, Option.bind_some, WrittenDate.isPlain, Bool.and_eq_true,
    and_assoc, ite_and]
  rfl

theorem hoursMinutes_text (hours minutes : DigitPair) :
    hoursMinutes (hours.text ++ ':' :: minutes.text) =
      if hours.isPlain && minutes.isPlain then some ((hours.value, minutes.value), [])
      else none := by
  have last := twoDigits_text minutes []
  rw [List.append_nil] at last
  simp only [hoursMinutes, Option.bind_eq_bind, twoDigits_text, ite_bind, expect_self,
    Option.getD_some, last, Bool.and_eq_true, ite_and]

theorem zone_text (written : WrittenZone) :
    zone written.text = if written.isPlain then some written.minutes else none := by
  cases written with
  | absent => rfl
  | universal => rfl
  | offset isAhead hours minutes =>
    have notUniversal : hours.text ++ ':' :: minutes.text ≠ [] := by simp [DigitPair.text]
    have isSign : WrittenZone.sign isAhead = '+' ∨ WrittenZone.sign isAhead = '-' := by
      cases isAhead
      · exact .inr rfl
      · exact .inl rfl
    rw [WrittenZone.text, List.cons_append, zone, if_pos isSign, hoursMinutes_text]
    · cases plain : hours.isPlain && minutes.isPlain with
      | false => rw [WrittenZone.isPlain, plain]; rfl
      | true =>
        rw [WrittenZone.isPlain, plain]
        cases isAhead <;> rfl
    · intro _
      exact notUniversal

/-- No zone begins with a digit. -/
theorem zone_digit (digit : WrittenDigit) (rest : List Char) :
    zone (digit.char :: rest) = none := by
  obtain ⟨-, notZ, notPlus, notMinus⟩ := digit.char_apart
  rw [zone, if_neg]
  · simp [notPlus, notMinus]
  · intro isZ
    exact absurd isZ notZ

end InstantReader

/-! ### Fractions -/

theorem decimalValueIn_lt {ranges : List (Nat × Nat)} {code value : Nat}
    (found : decimalValueIn ranges code = some value) : value < 10 := by
  induction ranges with
  | nil => cases found
  | cons range ranges ih =>
    rw [decimalValueIn] at found
    split at found
    · cases found
    split at found
    · obtain rfl := Option.some.inj found
      exact Nat.mod_lt _ (by decide)
    · exact ih found

/-- Two digits denote less than a hundred. -/
theorem DigitPair.value_lt (pair : DigitPair) : pair.value < 100 := by
  have digit_lt (digit : WrittenDigit) : digit.value < 10 := by
    obtain ⟨value, found⟩ := Option.isSome_iff_exists.mp digit.isDigit
    rw [WrittenDigit.value, found]
    exact decimalValueIn_lt found
  have tens := digit_lt pair.tens
  have units := digit_lt pair.units
  rw [value]
  omega

theorem decimalValue_eq (value : Nat) (digits : List Char) :
    digits.foldl (fun value c => 10 * value + (decimalValue? c).getD 0) value =
      value * power 10 digits.length + decimalValue digits := by
  induction digits generalizing value with
  | nil => exact (Nat.mul_one value).symm
  | cons c digits ih =>
    rw [decimalValue, List.foldl_cons, List.foldl_cons, ih, ih (10 * 0 + _), List.length_cons,
      power_succ, Nat.mul_zero, Nat.zero_add, Nat.add_mul, Nat.mul_comm 10 value, Nat.mul_assoc,
      Nat.mul_comm 10, Nat.add_assoc]

theorem decimalValue_append (first second : List Char) :
    decimalValue (first ++ second) =
      decimalValue first * power 10 second.length + decimalValue second := by
  rw [decimalValue, List.foldl_append, decimalValue_eq]
  rfl

theorem decimalValue_cons (c : Char) (digits : List Char) :
    decimalValue (c :: digits) =
      (decimalValue? c).getD 0 * power 10 digits.length + decimalValue digits := by
  have first : decimalValue [c] = (decimalValue? c).getD 0 := by simp [decimalValue]
  rw [← first]
  exact decimalValue_append [c] digits

theorem decimalValue_lt (digits : List Char) : decimalValue digits < power 10 digits.length := by
  induction digits with
  | nil => decide
  | cons c digits ih =>
    have small : (decimalValue? c).getD 0 ≤ 9 := by
      cases found : decimalValue? c with
      | none => decide
      | some value => exact Nat.le_of_lt_succ (decimalValueIn_lt found)
    have most := Nat.mul_le_mul_right (power 10 digits.length) small
    rw [decimalValue_cons, List.length_cons, power_succ]
    omega

theorem decimalValue_zeros (count : Nat) : decimalValue (List.replicate count '0') = 0 := by
  induction count with
  | zero => rfl
  | succ count ih =>
    have zero : (decimalValue? '0').getD 0 = 0 := by decide
    rw [List.replicate_succ, decimalValue_cons, ih, zero, Nat.zero_mul]

namespace InstantReader

/-- ASCII digits count as the digits of any script do. -/
theorem foldl_asciiDigitValue {digits : List Char} (all : ∀ c ∈ digits, isAsciiDigit c)
    (value : Nat) :
    digits.foldl (fun value c => 10 * value + asciiDigitValue c) value =
      value * power 10 digits.length + decimalValue digits := by
  rw [← decimalValue_eq]
  refine List.foldl_ext _ _ _ fun value c member => ?_
  rw [decimalValue?_of_isAsciiDigit (all c member), Option.getD_some]

theorem microseconds_eq {digits : List Char} (all : ∀ c ∈ digits, isAsciiDigit c) :
    microseconds digits = decimalValue (digits.take 6) * power 10 (6 - digits.length) := by
  have all' : ∀ c ∈ digits.take 6 ++ List.replicate (6 - digits.length) '0', isAsciiDigit c := by
    refine List.forall_mem_append.mpr ⟨fun c member => all c (List.mem_of_mem_take member), ?_⟩
    intro c member
    rw [List.eq_of_mem_replicate member]
    decide
  rw [microseconds, foldl_asciiDigitValue all', Nat.zero_mul, Nat.zero_add, decimalValue_append,
    decimalValue_zeros, List.length_replicate, Nat.add_zero]

/-- The digits of a fraction that are read determine its microseconds. -/
theorem microseconds_text {read left : List WrittenDigit}
    (plain : ∀ digit ∈ read, digit.isPlain) (enough : left = [] ∨ 6 ≤ read.length) :
    microseconds (WrittenSeconds.digitsText read) = WrittenSeconds.microsecond (read ++ left) := by
  have all : ∀ c ∈ WrittenSeconds.digitsText read, isAsciiDigit c := by
    simpa [WrittenSeconds.digitsText, WrittenDigit.isPlain] using plain
  rw [microseconds_eq all, WrittenSeconds.microsecond]
  by_cases long : 6 ≤ read.length
  · have split : WrittenSeconds.digitsText (read ++ left) =
        (WrittenSeconds.digitsText read).take 6 ++
          ((WrittenSeconds.digitsText read).drop 6 ++ WrittenSeconds.digitsText left) := by
      rw [← List.append_assoc, List.take_append_drop]
      exact List.map_append
    generalize behind : (WrittenSeconds.digitsText read).drop 6 ++
      WrittenSeconds.digitsText left = others at split
    have size : (read ++ left).length = others.length + 6 := by
      have sizes := congrArg List.length split
      simp [WrittenSeconds.digitsText] at sizes
      rw [List.length_append]
      omega
    have exponent : 6 - (WrittenSeconds.digitsText read).length = 0 := by
      simpa [WrittenSeconds.digitsText, Nat.sub_eq_zero_iff_le] using long
    rw [exponent, split, decimalValue_append, size, power_add,
      Nat.mul_div_mul_right _ _ (power_pos (by decide) 6), Nat.add_comm,
      Nat.add_mul_div_right _ _ (power_pos (by decide) _),
      Nat.div_eq_of_lt (decimalValue_lt others), Nat.zero_add]
    exact Nat.mul_one _
  · obtain rfl := enough.resolve_right long
    have size : (WrittenSeconds.digitsText read).length = read.length := List.length_map _
    have short : read.length ≤ 6 := by omega
    have split : power 10 6 = power 10 (6 - read.length) * power 10 read.length := by
      rw [← power_add, Nat.sub_add_cancel short]
    rw [List.append_nil, size, List.take_of_length_le (by omega), split, ← Nat.mul_assoc,
      Nat.mul_div_cancel _ (power_pos (by decide) _)]

/-- A zone does not begin with a digit, a point or a colon. -/
theorem zone_head (zone : WrittenZone) :
    ∀ c ∈ zone.text.head?,
      isAsciiDigit c = false ∧ isDecimalDigit c = false ∧ c ≠ '.' ∧ c ≠ ':' := by
  intro c first
  cases zone with
  | absent => cases first
  | universal =>
    obtain rfl : 'Z' = c := by simpa [WrittenZone.text] using first
    decide
  | offset isAhead hours minutes =>
    obtain rfl : WrittenZone.sign isAhead = c := by simpa [WrittenZone.text] using first
    cases isAhead <;> decide

/-- Digits of any script in front of a zone are passed over if there is a zone. -/
theorem behindDigits_text (digits : List WrittenDigit) (zone : WrittenZone) :
    behindDigits (WrittenSeconds.digitsText digits ++ zone.text) =
      if zone.isWritten then zone.text else WrittenSeconds.digitsText digits := by
  have all : ∀ c ∈ WrittenSeconds.digitsText digits, (decimalValue? c).isSome := by
    intro c member
    obtain ⟨digit, -, rfl⟩ := List.mem_map.mp member
    exact digit.isDigit
  have left := (takeWhile_append_stop all fun c first => (zone_head zone c first).2.1).2
  rw [behindDigits, left]
  cases zone with
  | absent => exact List.append_nil _
  | universal => rfl
  | offset => rfl

section

variable {read left : List WrittenDigit} (plain : ∀ digit ∈ read, digit.isPlain)
  (stop : ∀ digit ∈ left.head?, digit.isPlain = false)

include plain stop

/-- Which fractions can be read depends on where the first digit stands that cannot. -/
theorem readsFraction_append (zone : WrittenZone) :
    WrittenSeconds.readsFraction (read ++ left) zone =
      (left.isEmpty || (decide (6 ≤ read.length) && zone.isWritten)) := by
  have allPlain : read.all WrittenDigit.isPlain = true := List.all_eq_true.mpr plain
  have allTaken : (read.take 6).all WrittenDigit.isPlain = true :=
    List.all_eq_true.mpr fun digit member => plain digit (List.mem_of_mem_take member)
  cases left with
  | nil => simp [WrittenSeconds.readsFraction, allPlain, allTaken]
  | cons digit left =>
    have isStrange : digit.isPlain = false := stop digit rfl
    have notAll : (read ++ digit :: left).all WrittenDigit.isPlain = false := by
      simp [isStrange]
    rw [WrittenSeconds.readsFraction, notAll, Bool.false_or, List.isEmpty_cons, Bool.false_or]
    congr 1
    by_cases long : 6 ≤ read.length
    · rw [List.take_append_of_le_length long, allTaken, decide_eq_true long]
    · have taken : digit ∈ (read ++ digit :: left).take 6 := by
        rw [List.take_append, List.mem_append]
        obtain ⟨more, isMore⟩ : ∃ more, 6 - read.length = more + 1 :=
          ⟨5 - read.length, by omega⟩
        exact .inr (by rw [isMore]; exact List.mem_cons_self)
      rw [decide_eq_false long, List.all_eq_false]
      exact ⟨digit, taken, by simp [isStrange]⟩

/-- The digits of a fraction are read up to the first one that cannot. -/
theorem fraction_append (some : read ≠ []) (zone : WrittenZone) :
    fraction ('.' :: (WrittenSeconds.digitsText (read ++ left) ++ zone.text)) =
      (microseconds (WrittenSeconds.digitsText read), if 6 ≤ read.length then
        behindDigits (WrittenSeconds.digitsText left ++ zone.text) else
        WrittenSeconds.digitsText left ++ zone.text) := by
  have all : ∀ c ∈ WrittenSeconds.digitsText read, isAsciiDigit c := by
    simpa [WrittenSeconds.digitsText, WrittenDigit.isPlain] using plain
  have ends : ∀ c ∈ (WrittenSeconds.digitsText left ++ zone.text).head?,
      isAsciiDigit c = false := by
    intro c first
    cases left with
    | nil => exact (zone_head zone c first).1
    | cons digit left =>
      obtain rfl : digit.char = c := by simpa [WrittenSeconds.digitsText] using first
      exact stop digit rfl
  obtain ⟨taken, behind⟩ := takeWhile_append_stop all ends
  have whole : WrittenSeconds.digitsText (read ++ left) ++ zone.text =
      WrittenSeconds.digitsText read ++ (WrittenSeconds.digitsText left ++ zone.text) := by
    simp [WrittenSeconds.digitsText]
  obtain ⟨digit, others, rfl⟩ := List.exists_cons_of_ne_nil some
  have isFirst : isAsciiDigit digit.char := all _ List.mem_cons_self
  have size : (WrittenSeconds.digitsText (digit :: others)).length = (digit :: others).length :=
    List.length_map _
  rw [whole, ← size]
  rw [show WrittenSeconds.digitsText (digit :: others) =
    digit.char :: WrittenSeconds.digitsText others from rfl, List.cons_append] at taken behind ⊢
  simp only [fraction, isFirst, if_true, taken, behind]

end

/-- **A fraction is read with what is behind it**, or nothing can be read behind it. -/
theorem fraction_text (digits : List WrittenDigit) (written : WrittenZone) :
    ∃ part behind,
      fraction (WrittenSeconds.fractionText digits ++ written.text) = (part, behind) ∧
      if WrittenSeconds.readsFraction digits written then
        part = WrittenSeconds.microsecond digits ∧ behind = written.text
      else zone behind = none := by
  obtain ⟨read, left, rfl, plain, stop⟩ : ∃ read left, digits = read ++ left ∧
      (∀ digit ∈ read, digit.isPlain) ∧ ∀ digit ∈ left.head?, digit.isPlain = false := by
    refine ⟨digits.takeWhile WrittenDigit.isPlain, digits.dropWhile WrittenDigit.isPlain,
      List.takeWhile_append_dropWhile.symm, fun _ member => List.mem_takeWhile_imp member, ?_⟩
    intro digit first
    have stop := List.head?_dropWhile_not WrittenDigit.isPlain digits
    rw [Option.mem_def.mp first] at stop
    exact stop
  rw [readsFraction_append plain stop]
  cases read with
  | nil =>
    cases left with
    | nil =>
      refine ⟨0, written.text, ?_, rfl, rfl⟩
      rw [List.append_nil, WrittenSeconds.fractionText, List.isEmpty_nil, if_pos rfl,
        List.nil_append, fraction]
      intro c rest isPoint
      exact (zone_head written '.' (by rw [isPoint]; rfl)).2.2.1 rfl
    | cons digit left =>
      refine ⟨0, '.' :: (WrittenSeconds.digitsText (digit :: left) ++ written.text), ?_, rfl⟩
      have isStrange : isAsciiDigit digit.char = false := stop digit rfl
      exact if_neg (by simp [isStrange])
  | cons digit read =>
    have text : WrittenSeconds.fractionText (digit :: read ++ left) =
        '.' :: WrittenSeconds.digitsText (digit :: read ++ left) := rfl
    rw [text, List.cons_append, fraction_append plain stop (List.cons_ne_nil _ _)]
    refine ⟨_, _, rfl, ?_⟩
    rw [behindDigits_text]
    cases left with
    | nil =>
      refine (if_pos rfl).mpr ⟨microseconds_text plain (.inl rfl), ?_⟩
      cases written with
      | absent => exact ite_self _
      | universal => exact ite_self _
      | offset => exact ite_self _
    | cons strange left =>
      have noZone (rest : List Char) :
          zone (WrittenSeconds.digitsText (strange :: left) ++ rest) = none := zone_digit strange _
      by_cases long : 6 ≤ (digit :: read).length
      · rw [if_pos long, decide_eq_true long]
        cases isWritten : written.isWritten with
        | true => exact ⟨microseconds_text plain (.inr long), rfl⟩
        | false =>
          have none := noZone []
          rw [List.append_nil] at none
          exact none
      · rw [if_neg long, decide_eq_false long]
        exact noZone written.text

/-- Seconds are read with what is behind them, or nothing can be read behind them. -/
theorem seconds_text (time : WrittenTime) (written : WrittenZone) :
    ∃ second part behind,
      seconds (time.secondsText ++ written.text) = ((second, part), behind) ∧
      if time.seconds.all fun seconds =>
          seconds.second.isPlain && WrittenSeconds.readsFraction seconds.fraction written then
        second = time.second ∧ part = time.microsecond ∧ behind = written.text
      else zone behind = none := by
  obtain ⟨isSpaced, hour, minute, seconds⟩ := time
  cases seconds with
  | none =>
    refine ⟨0, 0, written.text, ?_, rfl, rfl, rfl⟩
    show InstantReader.seconds written.text = _
    rw [InstantReader.seconds]
    intro rest isColon
    exact (zone_head written ':' (by rw [isColon]; rfl)).2.2.2 rfl
  | some seconds =>
    have text : WrittenTime.secondsText ⟨isSpaced, hour, minute, some seconds⟩ ++ written.text =
        ':' :: (seconds.second.text ++
          (WrittenSeconds.fractionText seconds.fraction ++ written.text)) := by
      simp [WrittenTime.secondsText, WrittenSeconds.text]
    obtain ⟨part, behind, read, outcome⟩ := fraction_text seconds.fraction written
    rw [text, InstantReader.seconds, twoDigits_text]
    cases plain : seconds.second.isPlain with
    | false =>
      refine ⟨0, 0, _, rfl, ?_⟩
      rw [if_neg (by simp [plain])]
      rfl
    | true =>
      refine ⟨seconds.second.value, part, behind, ?_, ?_⟩
      · rw [if_pos rfl]
        simp only [read]
      · simp only [Option.all_some, plain, Bool.true_and]
        split at outcome
        · next readable =>
          rw [if_pos readable]
          exact ⟨rfl, outcome⟩
        · next unreadable =>
          rw [if_neg unreadable]
          exact outcome

/-- A time of day is read with the zone behind it. -/
theorem timeAndZone_time (time : WrittenTime) (written : WrittenZone) :
    timeAndZone (time.text ++ written.text) =
      if time.isReadable written && written.isPlain then
        some ((time.hour.value, time.minute.value, time.second, time.microsecond), written.minutes)
      else none := by
  obtain ⟨second, part, behind, read, outcome⟩ := seconds_text time written
  have isSeparator : time.separator = 'T' ∨ time.separator = ' ' := by
    rw [WrittenTime.separator]
    split
    · exact .inr rfl
    · exact .inl rfl
  have whole : time.text ++ written.text = time.separator ::
      (time.hour.text ++ ':' :: (time.minute.text ++ (time.secondsText ++ written.text))) := by
    simp [WrittenTime.text]
  have more : time.hour.text ++ ':' :: (time.minute.text ++ (time.secondsText ++ written.text)) ≠
      [] := by simp [DigitPair.text]
  have opened : timeAndZone (time.text ++ written.text) =
      if time.hour.isPlain then if time.minute.isPlain then
        (zone behind).bind fun offset =>
          some ((time.hour.value, time.minute.value, second, part), offset)
      else none else none := by
    rw [whole, timeAndZone, if_pos isSeparator]
    · simp only [Option.bind_eq_bind, twoDigits_text, ite_bind, expect_self, Option.bind_some, read]
    · exact fun _ => more
  rw [opened]
  simp only [WrittenTime.isReadable, Bool.and_eq_true, and_assoc, ite_and]
  congr 2
  split at outcome
  · next readable =>
    obtain ⟨rfl, rfl, rfl⟩ := outcome
    rw [if_pos readable, zone_text, ite_bind]
  · next unreadable =>
    rw [if_neg unreadable, outcome]
    rfl

/-- Behind a date alone, an offset is read as the time of day. -/
theorem timeAndZone_zone (written : WrittenZone) :
    timeAndZone written.text =
      match written with
      | .absent | .universal => some ((0, 0, 0, 0), 0)
      | .offset _ hours minutes => if hours.isPlain && minutes.isPlain then
          some ((hours.value, minutes.value, 0, 0), 0) else none := by
  cases written with
  | absent => rfl
  | universal => rfl
  | offset isAhead hours minutes =>
    have noSeparator : ¬ (WrittenZone.sign isAhead = 'T' ∨ WrittenZone.sign isAhead = ' ') := by
      cases isAhead <;> decide
    have isSign : WrittenZone.sign isAhead = '+' ∨ WrittenZone.sign isAhead = '-' := by
      cases isAhead <;> decide
    have more : hours.text ++ ':' :: minutes.text ≠ [] := by simp [DigitPair.text]
    rw [WrittenZone.text, List.cons_append, timeAndZone, if_neg noSeparator, if_pos isSign,
      hoursMinutes_text]
    · cases plain : hours.isPlain && minutes.isPlain <;> simp [plain]
    · exact fun _ => more

end InstantReader

/-! ### Reading instants -/

/-- What neither begins nor ends with white space stays as it is. -/
theorem trimBlanks_eq {cs : List Char} (first : ∀ c ∈ cs.head?, isBlank c = false)
    (last : ∀ c ∈ cs.getLast?, isBlank c = false) : trimBlanks cs = cs := by
  have front : cs.dropWhile isBlank = cs := (takeWhile_append_stop (List.forall_mem_nil _) first).2
  have back : cs.reverse.dropWhile isBlank = cs.reverse :=
    (takeWhile_append_stop (List.forall_mem_nil _) fun c isLast =>
      last c (by simpa using isLast)).2
  rw [trimBlanks, front, dropWhileEnd, back, List.reverse_reverse]

/-- Characters of which none is white space. -/
def Visible (cs : List Char) : Prop := ∀ c ∈ cs, isBlank c = false

theorem visible_append {first second : List Char} :
    Visible (first ++ second) ↔ Visible first ∧ Visible second := List.forall_mem_append

theorem visible_cons {c : Char} {cs : List Char} :
    Visible (c :: cs) ↔ isBlank c = false ∧ Visible cs := List.forall_mem_cons

theorem DigitPair.visible_text (pair : DigitPair) : Visible pair.text :=
  visible_cons.mpr ⟨pair.tens.char_apart.1,
    visible_cons.mpr ⟨pair.units.char_apart.1, List.forall_mem_nil _⟩⟩

theorem WrittenDate.visible_text (date : WrittenDate) : Visible date.text := by
  simp only [WrittenDate.text, visible_append, visible_cons, DigitPair.visible_text, true_and,
    and_true]
  decide

theorem WrittenTime.visible_secondsText (time : WrittenTime) : Visible time.secondsText := by
  obtain ⟨isSpaced, hour, minute, seconds⟩ := time
  cases seconds with
  | none => exact List.forall_mem_nil _
  | some seconds =>
    have digits : Visible (WrittenSeconds.digitsText seconds.fraction) := fun c member => by
      obtain ⟨digit, -, rfl⟩ := List.mem_map.mp member
      exact digit.char_apart.1
    have fraction : Visible (WrittenSeconds.fractionText seconds.fraction) := by
      rw [WrittenSeconds.fractionText]
      split
      · exact List.forall_mem_nil _
      · exact visible_cons.mpr ⟨by decide, digits⟩
    exact visible_append.mpr ⟨visible_cons.mpr ⟨by decide, seconds.second.visible_text⟩, fraction⟩

theorem WrittenZone.visible_text (zone : WrittenZone) : Visible zone.text := by
  cases zone with
  | absent => exact List.forall_mem_nil _
  | universal => exact visible_cons.mpr ⟨by decide, List.forall_mem_nil _⟩
  | offset isAhead hours minutes =>
    have isSign : isBlank (WrittenZone.sign isAhead) = false := by cases isAhead <;> decide
    exact visible_append.mpr ⟨visible_cons.mpr ⟨isSign, hours.visible_text⟩,
      visible_cons.mpr ⟨by decide, minutes.visible_text⟩⟩

namespace WrittenInstant

variable (written : WrittenInstant)

/-- Only behind the date there may be a space, and it is not at the end. -/
theorem exists_visible :
    ∃ front back, written.chars = front ++ back ∧ back ≠ [] ∧ Visible back := by
  obtain ⟨date, time, zone⟩ := written
  cases time with
  | none =>
    refine ⟨[], date.text ++ zone.text, by simp [chars], ?_,
      visible_append.mpr ⟨date.visible_text, zone.visible_text⟩⟩
    simp [WrittenDate.text, DigitPair.text]
  | some time =>
    refine ⟨date.text ++ [time.separator],
      time.hour.text ++ ':' :: (time.minute.text ++ (time.secondsText ++ zone.text)),
      by simp [chars, WrittenTime.text], by simp [DigitPair.text], ?_⟩
    simp only [visible_append, visible_cons, DigitPair.visible_text,
      WrittenTime.visible_secondsText, WrittenZone.visible_text, true_and, and_true]
    decide

/-- There is no white space at either end of a written instant. -/
theorem trimBlanks_chars : trimBlanks written.chars = written.chars := by
  refine trimBlanks_eq (fun c first => ?_) fun c last => ?_
  · obtain rfl : written.date.century.tens.char = c := by
      simpa [chars, WrittenDate.text, DigitPair.text] using first
    exact (WrittenDigit.char_apart _).1
  · obtain ⟨front, back, whole, some, visible⟩ := written.exists_visible
    rw [whole, List.getLast?_append_of_ne_nil _ some] at last
    exact visible c (List.mem_of_getLast? last)

/-- **A written instant is read as what it is understood to be**, if its digits can be read and the
instant exists. -/
theorem parse?_text : Instant.parse? written.text =
    if written.isReadable && written.asRead.instant.isValid then some written.asRead.instant
    else none := by
  obtain ⟨date, time, zone⟩ := written
  rw [Instant.parse?, text, String.toList_ofList, trimBlanks_chars, chars]
  simp only [List.append_assoc, Option.bind_eq_bind, InstantReader.date_text,
    InstantReader.ite_bind, isReadable, Bool.and_eq_true, and_assoc, ite_and]
  congr 1
  cases time with
  | some time =>
    simp only [Option.map_some, Option.getD_some, InstantReader.timeAndZone_time,
      InstantReader.ite_bind, Option.all_some]
    simp only [Bool.and_eq_true, ite_and]
    rfl
  | none =>
    cases zone with
    | absent => rfl
    | universal => rfl
    | offset isAhead hours minutes =>
      simp only [Option.map_none, Option.getD_none, List.nil_append,
        InstantReader.timeAndZone_zone, InstantReader.ite_bind, Option.all_none]
      rfl

end WrittenInstant

end DocQuery
