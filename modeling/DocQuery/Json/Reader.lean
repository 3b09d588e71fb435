/-
**Reading JSON.**

The reader works on the characters that are still to be read. Each step gives what it read and the
characters behind it, with a proof that they are fewer, and the recursion ends by their number.

Beyond the standard, the words `NaN`, `Infinity` and `-Infinity` are numbers. Control characters in
strings are refused, so are integers with more digits than a bound admits, if there is one, and of a
name that an object holds twice the last value stays.

* `JsonReader.value`: the value that begins at a place, and what is behind it;
* `Json.parseWithin`: the value that a text holds, under a bound on the digits of integers;
* `Json.parse`: the same under the bound for all integers in texts.
-/

import DocQuery.Json.Basic
import DocQuery.Text.CharClass
import DocQuery.Text.Surrogate

namespace DocQuery

/-- Why a text holds no value. -/
inductive JsonError where
  | malformed
  /-- An integer has too many digits. -/
  | oversizedInteger
deriving DecidableEq, Repr

/-- The most digits that an integer may have, if they are bounded. -/
abbrev DigitBound := Option Nat

/-- Whether an integer of so many digits is read. -/
def DigitBound.admits (bound : DigitBound) (digits : Nat) : Bool := bound.all (digits ≤ ·)

end DocQuery

namespace DocQuery.JsonReader

/-- What must be there. -/
def expected {α : Type} (found : Option α) : Except JsonError α :=
  match found with
  | some value => .ok value
  | none => .error .malformed

/-- What is left behind a step that began at `here`. -/
abbrev Shorter (here : List Char) := { rest : List Char // rest.length < here.length }

/-! ### Blanks and words -/

/-- Space between tokens. -/
def isSpace (c : Char) : Bool := c = ' ' || c = '\t' || c = '\n' || c = '\r'

/-- The characters behind the space. -/
def skipSpace (here : List Char) : List Char := here.dropWhile isSpace

theorem length_dropWhile_le {α : Type} (p : α → Bool) (items : List α) :
    (items.dropWhile p).length ≤ items.length := by
  induction items with
  | nil => simp
  | cons item more ih =>
    rw [List.dropWhile_cons]
    split
    · exact Nat.le_succ_of_le ih
    · exact Nat.le_refl _

theorem length_skipSpace_le (here : List Char) : (skipSpace here).length ≤ here.length :=
  length_dropWhile_le _ _

/-- The characters behind a word that must come next. -/
def dropWord : List Char → List Char → Option (List Char)
  | [], here => some here
  | _ :: _, [] => none
  | c :: word, d :: here => if c = d then dropWord word here else none

/-! ### Numbers -/

/-- The value of a sequence of digits. -/
def digitsValue (digits : List Char) : Nat :=
  digits.foldl (fun value c => 10 * value + asciiDigitValue c) 0

/-- The digits of a whole number: a zero alone, or digits of which the first is not zero. -/
def wholeDigits (here : List Char) : Option (List Char × List Char) :=
  match here with
  | '0' :: rest => some (['0'], rest)
  | c :: _ =>
    if isAsciiDigit c then some (here.takeWhile isAsciiDigit, here.dropWhile isAsciiDigit) else none
  | [] => none

/-- A point and at least one digit. -/
def fractionDigits (here : List Char) : Option (List Char × List Char) :=
  match here with
  | '.' :: c :: rest =>
    if isAsciiDigit c then
      some ((c :: rest).takeWhile isAsciiDigit, (c :: rest).dropWhile isAsciiDigit)
    else none
  | _ => none

/-- The digits of an exponent behind its sign. -/
def exponentDigits (negative : Bool) (here : List Char) : Option (Int × List Char) :=
  match here.takeWhile isAsciiDigit with
  | [] => none
  | digits =>
    let value : Int := digitsValue digits
    some (if negative then -value else value, here.dropWhile isAsciiDigit)

/-- The letter `e`, a sign or none, and at least one digit. -/
def exponentPart (here : List Char) : Option (Int × List Char) :=
  match here with
  | 'e' :: '-' :: rest | 'E' :: '-' :: rest => exponentDigits true rest
  | 'e' :: '+' :: rest | 'E' :: '+' :: rest => exponentDigits false rest
  | 'e' :: rest | 'E' :: rest => exponentDigits false rest
  | _ => none

/-- A number behind its sign. Without fraction and exponent it is a whole number. -/
def unsignedNumber (bound : DigitBound) (negative : Bool) (here : List Char) :
    Except JsonError (Json × List Char) := do
  let (whole, rest) ← expected (wholeDigits here)
  let fraction := fractionDigits rest
  let afterFraction := (fraction.map Prod.snd).getD rest
  let exponent := exponentPart afterFraction
  match fraction, exponent with
  | none, none =>
    let value : Int := digitsValue whole
    if bound.admits whole.length then .ok (.int (if negative then -value else value), rest)
    else .error .oversizedInteger
  | _, _ =>
    let decimals := (fraction.map Prod.fst).getD []
    let scale := (exponent.map Prod.fst).getD 0
    .ok (.float (.ofDecimal negative ⟨digitsValue (whole ++ decimals), scale - decimals.length⟩),
      (exponent.map Prod.snd).getD afterFraction)

/-- A number or one of the words for numbers that are not finite. -/
def number (bound : DigitBound) (here : List Char) : Except JsonError (Json × List Char) :=
  match here with
  | '-' :: rest =>
    match dropWord "Infinity".toList rest with
    | some rest => .ok (.float (.infinite true), rest)
    | none => unsignedNumber bound true rest
  | _ => unsignedNumber bound false here

/-! ### Strings -/

/-- The value of a hexadecimal digit. -/
def hexValue? (c : Char) : Option Nat :=
  if isAsciiDigit c then some (asciiDigitValue c)
  else if 'a' ≤ c ∧ c ≤ 'f' then some (c.toNat - 'a'.toNat + 10)
  else if 'A' ≤ c ∧ c ≤ 'F' then some (c.toNat - 'A'.toNat + 10)
  else none

/-- Four hexadecimal digits. -/
def unit? (a b c d : Char) : Option Nat := do
  some (((← hexValue? a) * 16 + (← hexValue? b)) * 256 + (← hexValue? c) * 16 + (← hexValue? d))

/-- The character behind a backslash, other than an escape by number. -/
def simpleEscape? (c : Char) : Option Char :=
  match c with
  | '"' => some '"'
  | '\\' => some '\\'
  | '/' => some '/'
  | 'b' => some '\x08'
  | 'f' => some '\x0c'
  | 'n' => some '\n'
  | 'r' => some '\r'
  | 't' => some '\t'
  | _ => none

theorem lt_add_succ (n k : Nat) : n < n + (k + 1) := Nat.lt_add_of_pos_right (Nat.succ_pos k)

/-- One character of a string and what is behind it. -/
def stringChar (here : List Char) : Option (Char × Shorter here) :=
  match here with
  | '\\' :: 'u' :: a :: b :: c :: d :: '\\' :: 'u' :: e :: f :: g :: h :: rest =>
    match unit? a b c d with
    | none => none
    | some high =>
      match (unit? e f g h).bind (pairChar? high) with
      | some c => some (c, ⟨rest, lt_add_succ _ 11⟩)
      | none =>
        some (scalarChar high, ⟨'\\' :: 'u' :: e :: f :: g :: h :: rest, lt_add_succ _ 5⟩)
  | '\\' :: 'u' :: a :: b :: c :: d :: rest =>
    (unit? a b c d).map fun unit => (scalarChar unit, ⟨rest, lt_add_succ _ 5⟩)
  | '\\' :: c :: rest => (simpleEscape? c).map fun c => (c, ⟨rest, lt_add_succ _ 1⟩)
  | c :: rest =>
    if c.toNat < 0x20 ∨ c = '\\' then none else some (c, ⟨rest, lt_add_succ _ 0⟩)
  | [] => none

/-- The characters of a string up to its closing quotation mark, and what is behind it. -/
def stringRest (here : List Char) : Option (List Char × Shorter here) :=
  match here with
  | '"' :: rest => some ([], ⟨rest, by simp⟩)
  | [] => none
  | first :: others =>
    match stringChar (first :: others) with
    | none => none
    | some (c, ⟨rest, fewer⟩) =>
      match stringRest rest with
      | none => none
      | some (cs, ⟨rest', fewer'⟩) => some (c :: cs, ⟨rest', Nat.lt_trans fewer' fewer⟩)
termination_by here.length
decreasing_by exact fewer

/-- A string that begins with its quotation mark. -/
def stringToken (here : List Char) : Option (String × Shorter here) :=
  match here with
  | '"' :: rest =>
    (stringRest rest).map fun (cs, ⟨rest', fewer⟩) =>
      (String.ofList cs, ⟨rest', Nat.lt_succ_of_lt fewer⟩)
  | _ => none

/-! ### Values -/

/-- A number or a word that is a value. -/
def scalar (bound : DigitBound) (here : List Char) : Except JsonError (Json × List Char) :=
  match dropWord "null".toList here with
  | some rest => .ok (.null, rest)
  | none =>
  match dropWord "true".toList here with
  | some rest => .ok (.bool true, rest)
  | none =>
  match dropWord "false".toList here with
  | some rest => .ok (.bool false, rest)
  | none =>
  match dropWord "NaN".toList here with
  | some rest => .ok (.float .nan, rest)
  | none =>
  match dropWord "Infinity".toList here with
  | some rest => .ok (.float (.infinite false), rest)
  | none => number bound here

/-- The name of a field with its colon, and the characters behind it and the space around it. -/
def fieldName (here : List Char) : Option (String × Shorter here) :=
  match stringToken here with
  | none => none
  | some (name, ⟨rest, fewer⟩) =>
    match found : skipSpace rest with
    | ':' :: rest' => some (name, ⟨skipSpace rest', by
        have := length_skipSpace_le rest
        have := length_skipSpace_le rest'
        simp only [found, List.length_cons] at *
        omega⟩)
    | _ => none

mutual

/-- A value that begins here. -/
def value (bound : DigitBound) (here : List Char) : Except JsonError (Json × Shorter here) :=
  match here with
  | '"' :: rest =>
    (expected (stringToken ('"' :: rest))).map fun (text, rest) => (.string text, rest)
  | '[' :: rest =>
    match found : skipSpace rest with
    | ']' :: rest' => .ok (.array [], ⟨rest', by
        have := length_skipSpace_le rest
        simp only [found, List.length_cons] at *
        omega⟩)
    | start =>
      have most : start.length ≤ rest.length := found ▸ length_skipSpace_le rest
      (items bound start).map fun (items, ⟨rest', fewer⟩) =>
        (.array items, ⟨rest', by simp only [List.length_cons]; omega⟩)
  | '\x7b' :: rest =>
    match found : skipSpace rest with
    | '\x7d' :: rest' => .ok (.object [], ⟨rest', by
        have := length_skipSpace_le rest
        simp only [found, List.length_cons] at *
        omega⟩)
    | start =>
      have most : start.length ≤ rest.length := found ▸ length_skipSpace_le rest
      (fields bound start).map fun (fields, ⟨rest', fewer⟩) =>
        (.object (Table.ofPairs fields), ⟨rest', by simp only [List.length_cons]; omega⟩)
  | here =>
    match scalar bound here with
    | .error failure => .error failure
    | .ok (value, rest) =>
      if fewer : rest.length < here.length then .ok (value, ⟨rest, fewer⟩) else .error .malformed
termination_by 2 * here.length

/-- The items of an array from one that begins here up to the closing bracket. -/
def items (bound : DigitBound) (here : List Char) : Except JsonError (List Json × Shorter here) :=
  match value bound here with
  | .error failure => .error failure
  | .ok (item, ⟨rest, fewer⟩) =>
    match found : skipSpace rest with
    | ']' :: rest' => .ok ([item], ⟨rest', by
        have := length_skipSpace_le rest
        simp only [found, List.length_cons] at *
        omega⟩)
    | ',' :: rest' =>
      have shorter : (skipSpace rest').length < here.length := by
        have := length_skipSpace_le rest
        have := length_skipSpace_le rest'
        simp only [found, List.length_cons] at *
        omega
      (items bound (skipSpace rest')).map fun (more, ⟨rest'', fewer'⟩) =>
        (item :: more, ⟨rest'', Nat.lt_trans fewer' shorter⟩)
    | _ => .error .malformed
termination_by 2 * here.length + 1

/-- The fields of an object from one that begins here up to the closing brace. -/
def fields (bound : DigitBound) (here : List Char) : Except JsonError (Fields × Shorter here) :=
  match fieldName here with
  | none => .error .malformed
  | some (name, ⟨start, less⟩) =>
    match value bound start with
    | .error failure => .error failure
    | .ok (content, ⟨rest, fewer⟩) =>
      match found : skipSpace rest with
      | '\x7d' :: rest' => .ok ([(name, content)], ⟨rest', by
          have := length_skipSpace_le rest
          simp only [found, List.length_cons] at *
          omega⟩)
      | ',' :: rest' =>
        have shorter : (skipSpace rest').length < here.length := by
          have := length_skipSpace_le rest
          have := length_skipSpace_le rest'
          simp only [found, List.length_cons] at *
          omega
        (fields bound (skipSpace rest')).map fun (more, ⟨rest'', fewer'⟩) =>
          ((name, content) :: more, ⟨rest'', Nat.lt_trans fewer' shorter⟩)
      | _ => .error .malformed
termination_by 2 * here.length + 1

end

end DocQuery.JsonReader

namespace DocQuery

/-- The value that a text holds, with nothing but space around it. -/
def Json.parseWithin (bound : DigitBound) (text : String) : Except JsonError Json :=
  match JsonReader.value bound (JsonReader.skipSpace text.toList) with
  | .ok (value, ⟨rest, _⟩) =>
    if (JsonReader.skipSpace rest).isEmpty then .ok value else .error .malformed
  | .error failure => .error failure

/-- The value that a text holds, whose integers have no more digits than any in a text. -/
def Json.parse (text : String) : Except JsonError Json :=
  Json.parseWithin (some maxIntegerDigits) text

/-- The value that a text holds, if it holds one. -/
def Json.parse? (text : String) : Option Json := (Json.parse text).toOption

end DocQuery
