/-
**Reading what was printed.**

* `integerVerdict`: what comes of the digits of an integer under a bound. `scalar_toString` says
  that this is what is read;
* `value_toString`, `value_toString_refused`: an integer is a value, or refused as one;
* `fieldName_unescaped`: a name without escapes is read as this name;
* `fields_single`, `value_object`: a field in braces is read as an object, and `fields_refused`,
  `value_object_refused` that it is refused if its value is;
* `Json.parseWithin_of_value`, `Json.parseWithin_of_refused`: a value with nothing behind it is the
  value of its text, and what is refused as a value is no text of one.
-/

import DocQuery.Json.Printer
import DocQuery.Json.Reader
import DocQuery.Proofs.Except
import DocQuery.Proofs.Number.ReadBack

namespace DocQuery

namespace JsonReader

/-! ### Integers -/

/-- What stands here does not go on with a number. -/
def EndsNumber (here : List Char) : Prop :=
  ∀ c ∈ here.head?, isAsciiDigit c = false ∧ c ≠ '.' ∧ c ≠ 'e' ∧ c ≠ 'E'

section

variable {bound : DigitBound} {here rest : List Char}

theorem EndsNumber.fractionDigits (ends : EndsNumber rest) : fractionDigits rest = none := by
  unfold JsonReader.fractionDigits
  split
  · exact absurd rfl (ends '.' rfl).2.1
  · rfl

theorem EndsNumber.exponentPart (ends : EndsNumber rest) : exponentPart rest = none := by
  unfold JsonReader.exponentPart
  split
  iterate 3
    · exact absurd rfl (ends 'e' rfl).2.2.1
    · exact absurd rfl (ends 'E' rfl).2.2.2
  · rfl

theorem wholeDigits_digitChars (n : Nat) (ends : EndsNumber rest) :
    wholeDigits (digitChars n ++ rest) = some (digitChars n, rest) := by
  obtain ⟨taken, left⟩ := takeWhile_append_stop
    (fun c member => isAsciiDigit_digitChars (n := n) member) fun c first => (ends c first).1
  obtain ⟨c, more, digits, digit⟩ := exists_digitChars n
  rw [digits] at taken left ⊢
  by_cases zero : c = '0'
  · subst zero
    rw [digitChars_leading_zero digits]
    rfl
  · rw [List.cons_append] at taken left ⊢
    unfold wholeDigits
    split
    · next eq => exact absurd (List.cons_eq_cons.mp eq).1 zero
    · next eq =>
      obtain ⟨rfl, -⟩ := List.cons_eq_cons.mp eq
      rw [if_pos digit, taken, left]
    · next eq => cases eq

/-- What comes of the digits of an integer: the integer, if they are not too many. -/
def integerVerdict (bound : DigitBound) (n : Int) (rest : List Char) :
    Except JsonError (Json × List Char) :=
  if bound.admits (digitChars n.natAbs).length then .ok (.int n, rest)
  else .error .oversizedInteger

/-- The digits of a number are read back, unless they are too many. -/
theorem unsignedNumber_digitChars (n : Nat) (ends : EndsNumber rest) (negative : Bool) :
    unsignedNumber bound negative (digitChars n ++ rest) =
      integerVerdict bound (if negative then -n else n) rest := by
  have size : (if negative then -(n : Int) else n).natAbs = n := by split <;> simp
  have same : digitsValue (digitChars n) = n := asciiValue_digitChars n
  rw [unsignedNumber, wholeDigits_digitChars n ends, integerVerdict, size]
  simp only [expected, ok_bind, ends.fractionDigits, ends.exponentPart, Option.map_none,
    Option.getD_none, same]

/-- What begins with a digit or a minus sign is read as a number. -/
theorem scalar_eq_number {c : Char} (starts : isAsciiDigit c ∨ c = '-') (more : List Char) :
    scalar bound (c :: more) = number bound (c :: more) := by
  have letter {d : Char} (noDigit : isAsciiDigit d = false) (noSign : d ≠ '-') : d ≠ c := by
    rcases starts with digit | rfl
    · exact (ne_of_isAsciiDigit digit noDigit).symm
    · exact noSign
  simp [scalar, dropWord, @letter 'n' (by decide), @letter 't' (by decide),
    @letter 'f' (by decide), @letter 'N' (by decide), @letter 'I' (by decide)]

theorem number_digitChars (n : Nat) (ends : EndsNumber rest) :
    number bound (digitChars n ++ rest) = integerVerdict bound n rest := by
  have read := @unsignedNumber_digitChars bound _ n ends false
  obtain ⟨c, more, first, digit⟩ := exists_digitChars n
  rw [first] at read ⊢
  unfold number
  split
  · next eq => exact absurd (List.cons_eq_cons.mp eq).1 (ne_of_isAsciiDigit digit (by decide))
  · exact read

theorem number_minus_digitChars (n : Nat) (ends : EndsNumber rest) :
    number bound ('-' :: (digitChars n ++ rest)) = integerVerdict bound (-n) rest := by
  have read := @unsignedNumber_digitChars bound _ n ends true
  obtain ⟨c, more, first, digit⟩ := exists_digitChars n
  have letter : 'I' ≠ c := (ne_of_isAsciiDigit digit (by decide)).symm
  rw [first] at read ⊢
  simpa [number, dropWord, letter] using read

theorem toList_toString_ofNat (n : Nat) : (toString (Int.ofNat n)).toList = digitChars n :=
  Nat.toList_repr

theorem toList_toString_negSucc (n : Nat) :
    (toString (Int.negSucc n)).toList = '-' :: digitChars (n + 1) := by
  rw [show toString (Int.negSucc n) = "-" ++ (n + 1).repr from rfl, String.toList_append,
    Nat.toList_repr]
  rfl

/-- Each character of an integer is a digit or a minus sign. -/
theorem digit_of_mem_toString {n : Int} {c : Char} (member : c ∈ (toString n).toList) :
    isAsciiDigit c ∨ c = '-' := by
  cases n with
  | ofNat n => exact .inl (isAsciiDigit_digitChars (toList_toString_ofNat n ▸ member))
  | negSucc n =>
    rw [toList_toString_negSucc] at member
    rcases List.mem_cons.mp member with sign | member
    · exact .inr sign
    · exact .inl (isAsciiDigit_digitChars member)

theorem exists_toString (n : Int) :
    ∃ c more, (toString n).toList = c :: more ∧ (isAsciiDigit c ∨ c = '-') := by
  cases chars : (toString n).toList with
  | nil =>
    cases n with
    | ofNat n => exact absurd (toList_toString_ofNat n ▸ chars) (digitChars_ne_nil n)
    | negSucc n => cases toList_toString_negSucc n ▸ chars
  | cons c more => exact ⟨c, more, rfl, digit_of_mem_toString (chars ▸ List.mem_cons_self)⟩

/-- **The digits of an integer are read back**, unless they are too many. -/
theorem scalar_toString (n : Int) (ends : EndsNumber rest) :
    scalar bound ((toString n).toList ++ rest) = integerVerdict bound n rest := by
  cases n with
  | ofNat n =>
    have read : number bound (digitChars n ++ rest) = integerVerdict bound (.ofNat n) rest :=
      number_digitChars n ends
    obtain ⟨c, more, first, digit⟩ := exists_digitChars n
    rw [toList_toString_ofNat, ← read, first]
    exact scalar_eq_number (.inl digit) _
  | negSucc n =>
    rw [toList_toString_negSucc, List.cons_append, scalar_eq_number (.inr rfl)]
    exact number_minus_digitChars (n + 1) ends

/-! ### Values -/

/-- What is read as a number or a word is a value. -/
theorem value_of_scalar {v : Json} (plain : ∀ c ∈ here.head?, c ≠ '"' ∧ c ≠ '[' ∧ c ≠ '\x7b')
    (found : scalar bound here = .ok (v, rest)) (fewer : rest.length < here.length) :
    value bound here = .ok (v, ⟨rest, fewer⟩) := by
  unfold value
  split
  · exact absurd rfl (plain '"' rfl).1
  · exact absurd rfl (plain '[' rfl).2.1
  · exact absurd rfl (plain '\x7b' rfl).2.2
  · rw [found]
    exact dif_pos fewer

theorem value_of_scalar_refused {failure : JsonError}
    (plain : ∀ c ∈ here.head?, c ≠ '"' ∧ c ≠ '[' ∧ c ≠ '\x7b')
    (refused : scalar bound here = .error failure) : value bound here = .error failure := by
  unfold value
  split
  · exact absurd rfl (plain '"' rfl).1
  · exact absurd rfl (plain '[' rfl).2.1
  · exact absurd rfl (plain '\x7b' rfl).2.2
  · rw [refused]

/-- An integer begins with no bracket and no quotation mark. -/
theorem plain_toString (n : Int) (rest : List Char) :
    ∀ c ∈ ((toString n).toList ++ rest).head?, c ≠ '"' ∧ c ≠ '[' ∧ c ≠ '\x7b' := by
  obtain ⟨c, more, first, digit⟩ := exists_toString n
  rw [first]
  rintro _ ⟨⟩
  rcases digit with digit | rfl
  · exact ⟨ne_of_isAsciiDigit digit (by decide), ne_of_isAsciiDigit digit (by decide),
      ne_of_isAsciiDigit digit (by decide)⟩
  · decide

/-- **The digits of an integer are a value**, unless they are too many. -/
theorem value_toString {n : Int} (admitted : bound.admits (digitChars n.natAbs).length)
    (ends : EndsNumber rest) :
    ∃ whole, value bound ((toString n).toList ++ rest) = .ok (.int n, whole) ∧
      whole.val = rest := by
  have read : scalar bound ((toString n).toList ++ rest) = .ok (.int n, rest) :=
    (scalar_toString n ends).trans (if_pos admitted)
  have fewer : rest.length < ((toString n).toList ++ rest).length := by
    obtain ⟨c, more, first, -⟩ := exists_toString n
    rw [first, List.length_append, List.length_cons]
    omega
  exact ⟨_, value_of_scalar (plain_toString n rest) read fewer, rfl⟩

theorem value_toString_refused {n : Int} (refused : ¬ bound.admits (digitChars n.natAbs).length)
    (ends : EndsNumber rest) :
    value bound ((toString n).toList ++ rest) = .error .oversizedInteger :=
  value_of_scalar_refused (plain_toString n rest)
    ((scalar_toString n ends).trans (if_neg refused))

theorem skipSpace_cons {c : Char} (visible : isSpace c = false) (rest : List Char) :
    skipSpace (c :: rest) = c :: rest := List.dropWhile_cons_of_neg (by simp [visible])

/-- There is no space in front of an integer. -/
theorem skipSpace_toString (n : Int) (rest : List Char) :
    skipSpace ((toString n).toList ++ rest) = (toString n).toList ++ rest := by
  obtain ⟨c, more, first, digit⟩ := exists_toString n
  have noSpace : isSpace c = false := by
    rcases digit with digit | rfl
    · simp [isSpace, @ne_of_isAsciiDigit c ' ' digit, @ne_of_isAsciiDigit c '\t' digit,
        @ne_of_isAsciiDigit c '\n' digit, @ne_of_isAsciiDigit c '\r' digit, isAsciiDigit]
    · rfl
  rw [first, List.cons_append, skipSpace_cons noSpace]

/-- A character that stands for itself in a string. -/
def IsUnescaped (c : Char) : Prop := 0x20 ≤ c.toNat ∧ c ≠ '"' ∧ c ≠ '\\'

theorem stringChar_unescaped {c : Char} (unescaped : IsUnescaped c) (starts : here = c :: rest) :
    ∃ whole, stringChar here = some (c, whole) ∧ whole.val = rest := by
  have noControl : ¬ (c.toNat < 0x20 ∨ c = '\\') := by
    rintro (small | rfl)
    · exact Nat.not_lt.mpr unescaped.1 small
    · exact unescaped.2.2 rfl
  unfold stringChar
  split
  iterate 3
    · exact absurd (List.cons_eq_cons.mp starts).1.symm unescaped.2.2
  · cases starts
    exact ⟨_, if_neg noControl, rfl⟩
  · cases starts

/-- A string without escapes is read up to its closing quotation mark. -/
theorem stringRest_unescaped {cs : List Char} (unescaped : ∀ c ∈ cs, IsUnescaped c)
    (rest : List Char) :
    ∃ whole, stringRest (cs ++ '"' :: rest) = some (cs, whole) ∧ whole.val = rest := by
  induction cs with
  | nil =>
    rw [List.nil_append, stringRest.eq_def]
    exact ⟨_, rfl, rfl⟩
  | cons c more ih =>
    obtain ⟨first, others⟩ := List.forall_mem_cons.mp unescaped
    obtain ⟨⟨left, fewer⟩, isFirst, same⟩ := stringChar_unescaped first (rfl : _ = c :: _)
    subst same
    obtain ⟨⟨behind, fewer'⟩, read, same⟩ := ih others
    rw [List.cons_append, stringRest, isFirst]
    · simp only
      rw [read]
      exact ⟨_, rfl, same⟩
    · exact first.2.1

/-- A string without escapes and a colon behind it are the name of a field. -/
theorem fieldName_unescaped {cs : List Char} (unescaped : ∀ c ∈ cs, IsUnescaped c)
    (rest : List Char) :
    ∃ whole, fieldName ('"' :: (cs ++ '"' :: ':' :: rest)) = some (String.ofList cs, whole) ∧
      whole.val = skipSpace rest := by
  obtain ⟨⟨behind, fewer⟩, read, same⟩ := stringRest_unescaped unescaped (':' :: rest)
  subst same
  rw [fieldName, stringToken, read]
  exact ⟨_, rfl, rfl⟩

/-- One field up to the closing brace. -/
theorem fields_single {name : String} {start after : List Char} {content : Json}
    {less : start.length < here.length} {fewer : after.length < start.length}
    (named : fieldName here = some (name, ⟨start, less⟩))
    (found : value bound start = .ok (content, ⟨after, fewer⟩))
    (closed : skipSpace after = '\x7d' :: rest) :
    ∃ whole, fields bound here = .ok ([(name, content)], whole) ∧ whole.val = rest := by
  rw [fields, named]
  simp only
  rw [found]
  simp only
  split
  · next eq =>
    rw [closed] at eq
    cases eq
    exact ⟨_, rfl, rfl⟩
  · next eq =>
    rw [closed] at eq
    cases eq
  · next refused _ => exact absurd closed (refused _)

/-- A field whose value is refused is refused. -/
theorem fields_refused {name : String} {start : List Char} {failure : JsonError}
    {less : start.length < here.length} (named : fieldName here = some (name, ⟨start, less⟩))
    (refused : value bound start = .error failure) : fields bound here = .error failure := by
  rw [fields, named]
  simp only
  rw [refused]

/-- Fields in braces are an object. -/
theorem value_object {entries : Fields} {start : List Char} {whole : Shorter start}
    (opened : skipSpace here = start) (some : ∀ more, start ≠ '\x7d' :: more)
    (isFields : fields bound start = .ok (entries, whole)) :
    ∃ whole', value bound ('\x7b' :: here) = .ok (.object (Table.ofPairs entries), whole') ∧
      whole'.val = whole.val := by
  subst opened
  rw [value]
  split
  · next eq => exact absurd eq (some _)
  · rw [isFields]
    exact ⟨_, rfl, rfl⟩

/-- Braces around fields that are refused are refused. -/
theorem value_object_refused {start : List Char} {failure : JsonError}
    (opened : skipSpace here = start) (some : ∀ more, start ≠ '\x7d' :: more)
    (refused : fields bound start = .error failure) :
    value bound ('\x7b' :: here) = .error failure := by
  subst opened
  rw [value]
  split
  · next eq => exact absurd eq (some _)
  · rw [refused]
    rfl

end

end JsonReader

namespace Json

variable {bound : DigitBound} {text : String}

/-- A value with nothing but space behind it is the value of its text. -/
theorem parseWithin_of_value {v : Json}
    (read : ∃ whole, JsonReader.value bound (JsonReader.skipSpace text.toList) = .ok (v, whole) ∧
      JsonReader.skipSpace whole = []) : parseWithin bound text = .ok v := by
  obtain ⟨whole, found, blank⟩ := read
  rw [parseWithin, found]
  exact if_pos (List.isEmpty_iff.mpr blank)

/-- What is refused as a value is no text of one. -/
theorem parseWithin_of_refused {failure : JsonError}
    (refused : JsonReader.value bound (JsonReader.skipSpace text.toList) = .error failure) :
    parseWithin bound text = .error failure := by
  rw [parseWithin, refused]

end Json

end DocQuery
