/-
**Checks of JSON values.**

* `text`, `integer`, `number`: values of a simple kind. An integer or a number may also be given as
  a truth value or as a text that denotes it, and an integer as a number without a fraction;
* `listOf`, `dictionaryOf`, `optional`, `record`: values made of others;
* `Label`: a field with two names. `required` and `withDefault` look for the name that it has
  outside and then for its own one, and say in an issue which of the two was found.
-/

import DocQuery.Json.Basic
import DocQuery.Number.Numeral
import DocQuery.Schema.Issue

namespace DocQuery

/-- A check of a JSON value. -/
abbrev Check (α : Type) := Json → Checked α

namespace Check

variable {α : Type}

/-! ### Simple values -/

/-- Any value. -/
def anything : Check Json := .valid

/-- A text. -/
def text : Check String
  | .string value => .valid value
  | _ => .refuse .notText

/-- The integer that characters denote in its plain form: a minus sign or none, and digits of which
the first is not zero, or a single zero. -/
def readPlainInteger (cs : List Char) : Checked Int :=
  let negative := cs.head? == some '-'
  let digits := if negative then cs.drop 1 else cs
  if digits = ['0'] then .valid 0
  else if digits.head?.all fun c => c == '0' || !isAsciiDigit c then .refuse .unreadableInteger
  else if maxIntegerDigits < (digits.takeWhile isAsciiDigit).length then .refuse .oversizedInteger
  else if !digits.all isAsciiDigit then .refuse .unreadableInteger
  else .valid (withSign negative (decimalValue digits))

/-- Digits without the zeros in front, among which underscores may stand. A single zero stays, and
one in front of a point. A minus sign ends the zeros. There is no result for what begins in another
way. -/
def dropZerosFrom? (last : Char) : List Char → Option (List Char)
  | [] => some [last]
  | c :: rest =>
    if c = '0' ∨ c = '_' then dropZerosFrom? c rest
    else if c = '.' then some (last :: c :: rest)
    else if isAsciiDigit c ∨ c = '-' then some (c :: rest)
    else none

/-- Characters without the zeros in front. -/
def dropLeadingZeros? (cs : List Char) : Option (List Char) :=
  match cs with
  | c :: rest =>
    if c = '0' then dropZerosFrom? c rest
    else if isAsciiDigit c ∨ c = '-' then some cs
    else none
  | [] => none

/-- Characters without a fraction of zeros. -/
def dropZeroFraction (cs : List Char) : List Char :=
  match cs.dropWhile (· != '.') with
  | _ :: zero :: zeros => if (zero :: zeros).all (· == '0') then cs.takeWhile (· != '.') else cs
  | _ => cs

/-- Whether no two underscores stand side by side. -/
def hasSingleUnderscores : List Char → Bool
  | '_' :: '_' :: _ => false
  | _ :: rest => hasSingleUnderscores rest
  | [] => true

/-- Characters without their underscores, unless one of them stands at an end or beside another. -/
def dropUnderscores (cs : List Char) : List Char :=
  if cs.head? == some '_' || cs.getLast? == some '_' || !hasSingleUnderscores cs then cs
  else cs.filter (· != '_')

/-- An integer in its plain form, from one with white space around it, a plus sign, zeros in front,
underscores or a fraction of zeros. -/
def plainInteger? (cs : List Char) : Option (List Char) :=
  let cs := trimNumber cs
  let unsigned := if cs.head? == some '+' then cs.drop 1 else cs
  if cs.head? == some '+' && unsigned.head? == some '-' then none
  else (dropLeadingZeros? unsigned).map fun cs => dropUnderscores (dropZeroFraction cs)

/-- The integer that a text denotes. -/
def readInteger (text : String) : Checked Int :=
  match readPlainInteger text.toList with
  | .valid value => .valid value
  | refused =>
    match plainInteger? text.toList with
    | some cs => readPlainInteger cs
    | none => refused

/-- The double precision number that ASCII characters denote. The digits of other scripts make no
number here. -/
def asciiNumber? (cs : List Char) : Option Binary64 :=
  if cs.all fun c => c.toNat < 0x80 then plainNumber? cs else none

/-- The double precision number that a text denotes. There may be white space around it, or
underscores in it. -/
def readNumber (text : String) : Checked Binary64 :=
  match asciiNumber? (trimNumber text.toList) <|> asciiNumber? (dropUnderscores text.toList) with
  | some value => .valid value
  | none => .refuse .unreadableNumber

/-- The integer that a number is equal to. -/
def wholeNumber (value : Binary64) : Checked Int :=
  match value.units? with
  | none => .refuse .notFinite
  | some units =>
    if units % power 2 1074 ≠ 0 then .refuse .fractional
    else
      let whole := units / power 2 1074
      if whole.natAbs < power 2 63 then .valid whole else .refuse .oversizedInteger

/-- An integer. -/
def integer : Check Int
  | .int value => .valid value
  | .bool value => .valid value.toNat
  | .float value => wholeNumber value
  | .string text => readInteger text
  | _ => .refuse .notInteger

/-- A double precision number. -/
def number : Check Binary64
  | .float value => .valid value
  | .bool value => .valid (.ofInt value.toNat)
  | .int value =>
    match Binary64.ofInt value with
    | .finite negative units representable => .valid (.finite negative units representable)
    | _ => .refuse .notNumber
  | .string text => readNumber text
  | _ => .refuse .notNumber

/-- A positive integer. -/
def positive : Check { count : Nat // 0 < count } := fun value =>
  (integer value).andThen fun count =>
    if above : 0 < count.toNat then .valid ⟨count.toNat, above⟩ else .refuse .notAbove

/-- A number that is at least zero, which NaN is not. -/
def nonNegative : Check { bound : Binary64 // (Binary64.zero false).le bound } := fun value =>
  (number value).andThen fun bound =>
    if least : (Binary64.zero false).le bound then .valid ⟨bound, least⟩ else .refuse .below

/-! ### Values made of others -/

/-- Null or a value. -/
def optional (check : Check α) : Check (Option α)
  | .null => .valid none
  | value => some <$> check value

/-- Items from a number on. -/
def items (check : Check α) : Nat → List Json → Checked (List α)
  | _, [] => .valid []
  | index, item :: more =>
    List.cons <$> (check item).within (toString index) <*> items check (index + 1) more

/-- A list of values. -/
def listOf (check : Check α) : Check (List α)
  | .array values => items check 0 values
  | _ => .refuse .notList

/-- The entries of a dictionary. -/
def entries (check : Check α) : List (String × Json) → Checked (List (String × α))
  | [] => .valid []
  | (name, value) :: more =>
    List.cons <$> Prod.mk name <$> (check value).within name <*> entries check more

/-- A dictionary with values of one kind. -/
def dictionaryOf (check : Check α) : Check (List (String × α))
  | .object fields => entries check fields
  | _ => .refuse .notDictionary

/-- A record with named fields. Fields without a meaning are ignored. -/
def record (build : Fields → Checked α) : Check α
  | .object fields => build fields
  | _ => .refuse .notRecord

end Check

/-! ### Fields -/

/-- The two names of a field: its own one, and the one that it has outside. -/
structure Label where
  name : String
  wire : String
deriving DecidableEq, Repr

namespace Label

/-- A field that has the same name everywhere. -/
def plain (name : String) : Label := ⟨name, name⟩

/-- The value of a field, with the name under which it was found. -/
def find? (label : Label) (fields : Fields) : Option (String × Json) :=
  match fields.get? label.wire with
  | some value => some (label.wire, value)
  | none => (fields.get? label.name).map (Prod.mk label.name)

variable {α : Type}

/-- A field that has to be there. -/
def required (label : Label) (fields : Fields) (check : Check α) : Checked α :=
  match label.find? fields with
  | some (name, value) => (check value).within name
  | none => (Checked.refuse .missing).within label.wire

/-- A field with a value that holds where it is left out. -/
def withDefault (label : Label) (fields : Fields) (value : α) (check : Check α) : Checked α :=
  match label.find? fields with
  | some (name, given) => (check given).within name
  | none => .valid value

end Label

end DocQuery
