/-
**Continuation tokens are read back.**

* `parseWithin_continuationJson`: the text of the object for a place is read as this object;
* `continuationContent_continuationToken`: so is the token for the place;
* `StandsFor`: a text stands for a place. `continuationOffsetWithin?_eq_some` says that it is read
  so;
* `tokens_readBack`: tokens are read back, and every text is answered.
-/

import DocQuery.Paging.Continuation
import DocQuery.Proofs.Json.Reading
import DocQuery.Proofs.Text.Base64

namespace DocQuery

open JsonReader

/-- The characters of the object for a place. -/
def continuationChars (offset : Int) : List Char :=
  '\x7b' :: '"' :: (offsetName.toList ++ '"' :: ':' :: ((toString offset).toList ++ ['\x7d']))

theorem toList_continuationJson (offset : Int) :
    (continuationJson offset).compact.toList = continuationChars offset := by
  have name : (quoteJson offsetName).toList = '"' :: (offsetName.toList ++ ['"']) := by decide
  simp [continuationJson, continuationChars, Json.compact, Json.textWith, Json.fieldTexts, name]

theorem isAscii_continuationChars (offset : Int) : ∀ c ∈ continuationChars offset, IsAscii c := by
  have name : ∀ c ∈ offsetName.toList, IsAscii c := by simp [offsetName, IsAscii]
  have number : ∀ c ∈ (toString offset).toList, IsAscii c := fun c member =>
    (digit_of_mem_toString member).elim isAscii_of_isAsciiDigit fun sign => sign ▸ by decide
  intro c member
  simp only [continuationChars, List.mem_cons, List.mem_append, List.not_mem_nil, or_false]
    at member
  rcases member with rfl | rfl | member | rfl | rfl | member | rfl
  · decide
  · decide
  · exact name c member
  · decide
  · decide
  · exact number c member
  · decide

/-- The name in the object for a place is read, and the place stands behind it. -/
theorem fieldName_continuationChars (offset : Int) :
    ∃ less, fieldName (continuationChars offset).tail =
      some (offsetName, ⟨(toString offset).toList ++ ['\x7d'], less⟩) := by
  have unescaped : ∀ c ∈ offsetName.toList, IsUnescaped c := by simp [offsetName, IsUnescaped]
  obtain ⟨⟨start, less⟩, isName, atStart⟩ :=
    fieldName_unescaped unescaped ((toString offset).toList ++ ['\x7d'])
  rw [skipSpace_toString, String.ofList_toList] at *
  subst atStart
  exact ⟨less, isName⟩

/-- **The text of the object for a place is read as this object**, if the place has not too many
digits, and else it is refused. -/
theorem parseWithin_continuationJson (bound : DigitBound) (offset : Int) :
    Json.parseWithin bound (String.ofList (continuationChars offset)) =
      if bound.admits (digitChars offset.natAbs).length then .ok (continuationJson offset)
      else .error .oversizedInteger := by
  have ends : EndsNumber ['\x7d'] := by
    rintro _ ⟨⟩
    decide
  have opened : skipSpace (continuationChars offset) = continuationChars offset :=
    skipSpace_cons rfl _
  have inside : skipSpace (continuationChars offset).tail = (continuationChars offset).tail :=
    skipSpace_cons rfl _
  have filled : ∀ more, (continuationChars offset).tail ≠ '\x7d' :: more := by
    simp [continuationChars]
  obtain ⟨less, isName⟩ := fieldName_continuationChars offset
  split
  · next admitted =>
    obtain ⟨⟨after, fewer⟩, isInt, atEnd⟩ := value_toString admitted ends
    subst atEnd
    obtain ⟨whole, isFields, closed⟩ := fields_single isName isInt rfl
    obtain ⟨whole', isObject, same⟩ := value_object inside filled isFields
    refine Json.parseWithin_of_value ?_
    rw [String.toList_ofList, opened]
    exact ⟨whole', isObject, by rw [same, closed]; rfl⟩
  · next refused =>
    have isFields := fields_refused isName (value_toString_refused refused ends)
    refine Json.parseWithin_of_refused ?_
    rw [String.toList_ofList, opened]
    exact value_object_refused inside filled isFields

/-! ### Tokens -/

/-- The token for a place is the written form of its object. -/
theorem continuationContent_continuationToken (bound : DigitBound) (offset : Int) :
    continuationContent bound (continuationToken offset) =
      if bound.admits (digitChars offset.natAbs).length then .ok (continuationJson offset)
      else .error (.content .oversizedInteger) := by
  have ascii := isAscii_encodeBase64 (asciiBytes (continuationChars offset))
  have noOther : ¬ (encodeBase64 (asciiBytes (continuationChars offset))).any
      fun c => 0x80 ≤ c.toNat := by
    simpa [IsAscii] using ascii
  have decoded : decodeJsonBytes (asciiBytes (continuationChars offset)) =
      some (continuationChars offset) :=
    decodeJsonBytes_asciiBytes (isAscii_continuationChars offset) (by decide) (by decide)
  rw [continuationContent, continuationToken, String.toList_ofList, toList_continuationJson,
    if_neg noOther, decodeBase64_encodeBase64]
  simp only [decoded, parseWithin_continuationJson]
  split <;> rfl

theorem offsetOf?_continuationJson (offset : Int) :
    offsetOf? (continuationJson offset) = if 0 ≤ offset then some offset.toNat else none := by
  simp [offsetOf?, continuationJson, Json.field?, Table.get?]

/-- What is read of the token for a place. -/
theorem continuationOffsetWithin?_continuationToken (bound : DigitBound) (offset : Int) :
    continuationOffsetWithin? bound (continuationToken offset) =
      if 0 ≤ offset ∧ bound.admits (digitChars offset.natAbs).length then some offset.toNat
      else none := by
  rw [continuationOffsetWithin?, continuationContent_continuationToken]
  by_cases admitted : bound.admits (digitChars offset.natAbs).length
  · rw [if_pos admitted]
    simp only [offsetOf?_continuationJson, admitted, and_true]
  · rw [if_neg admitted, if_neg fun both => admitted both.2]

/-- **A token leads to the place that it was made for**, if the place has not too many digits. -/
theorem continuationOffset?_continuationToken {offset : Nat}
    (short : offset < power 10 maxIntegerDigits) :
    continuationOffset? (continuationToken offset) = some offset := by
  have few : (digitChars offset).length ≤ maxIntegerDigits :=
    (length_digitChars_le (by decide)).mpr short
  rw [continuationOffset?, continuationOffsetWithin?_continuationToken]
  exact if_pos ⟨Int.natCast_nonneg offset, decide_eq_true few⟩

/-! ### Other texts -/

/-- A text stands for a place: it is ASCII, its groups are complete, and their bytes are the text of
an object that holds the place. -/
structure StandsFor (bound : DigitBound) (token : String) (offset : Nat) : Prop where
  ascii : ∀ c ∈ token.toList, IsAscii c
  holds : ∃ bytes cs, ∃ fields : Fields, decodeBase64 token.toList = some bytes ∧
    decodeJsonBytes bytes = some cs ∧
    Json.parseWithin bound (String.ofList cs) = .ok (.object fields) ∧
    fields.get? offsetName = some (.int offset)

section

variable {bound : DigitBound} {token : String} {value : Json} {offset : Nat}

/-- A text is the written form of a value exactly if no layer fails. -/
theorem continuationContent_eq_ok :
    continuationContent bound token = .ok value ↔ (∀ c ∈ token.toList, IsAscii c) ∧
      ∃ bytes cs, decodeBase64 token.toList = some bytes ∧ decodeJsonBytes bytes = some cs ∧
        Json.parseWithin bound (String.ofList cs) = .ok value := by
  unfold continuationContent
  split
  · next foreign =>
    obtain ⟨c, member, large⟩ := List.any_eq_true.mp foreign
    refine ⟨nofun, fun ⟨ascii, _⟩ => ?_⟩
    exact absurd (ascii c member) (Nat.not_lt.mpr (of_decide_eq_true large))
  · next noOther =>
    have ascii : ∀ c ∈ token.toList, IsAscii c := by simpa [IsAscii] using noOther
    rw [and_iff_right ascii]
    cases isBytes : decodeBase64 token.toList with
    | none => simp
    | some bytes =>
      cases isText : decodeJsonBytes bytes with
      | none => simp [isText]
      | some cs =>
        cases parsed : Json.parseWithin bound (String.ofList cs) <;> simp [isText, parsed]

theorem offsetOf?_eq_some :
    offsetOf? value = some offset ↔
      ∃ fields : Fields, value = .object fields ∧
        fields.get? offsetName = some (.int offset) := by
  have integer (n : Int) : (if 0 ≤ n then some n.toNat else none) = some offset ↔ n = offset := by
    split
    · next positive => rw [Option.some.injEq]; omega
    · next negative => simp; omega
  cases value with
  | object fields =>
    rw [offsetOf?, Json.field?]
    constructor
    · intro found
      split at found
      · next n isOffset => exact ⟨fields, rfl, (integer n).mp found ▸ isOffset⟩
      · cases found
    · rintro ⟨_, ⟨⟩, isOffset⟩
      rw [isOffset]
      exact (integer offset).mpr rfl
  | null | bool _ | int _ | float _ | string _ | array _ => simp [offsetOf?, Json.field?]

/-- A text leads to a place exactly if it stands for it. -/
theorem continuationOffsetWithin?_eq_some :
    continuationOffsetWithin? bound token = some offset ↔ StandsFor bound token offset := by
  have split : continuationOffsetWithin? bound token = some offset ↔
      ∃ value, continuationContent bound token = .ok value ∧ offsetOf? value = some offset := by
    rw [continuationOffsetWithin?]
    cases continuationContent bound token <;> simp
  simp only [split, continuationContent_eq_ok, offsetOf?_eq_some]
  constructor
  · rintro ⟨value, ⟨ascii, bytes, cs, isBytes, isText, parsed⟩, fields, rfl, isOffset⟩
    exact ⟨ascii, bytes, cs, fields, isBytes, isText, parsed, isOffset⟩
  · rintro ⟨ascii, bytes, cs, fields, isBytes, isText, parsed, isOffset⟩
    exact ⟨_, ⟨ascii, bytes, cs, isBytes, isText, parsed⟩, fields, rfl, isOffset⟩

end

/-- **Tokens are read back, and every text is answered.** The token for a place is made of
characters that are safe in addresses and of padding. It leads to the place it was made for, of
whatever size if the digits of integers are not bounded, and to none if this is negative or exceeds
the bound. Any text leads to the place that it stands for, and to none if there is no such place
because one of the layers fails or holds something else. -/
theorem tokens_readBack (bound : DigitBound) :
    (∀ offset, (continuationToken offset).toList ⊆ '=' :: safeAlphabet) ∧
    (∀ offset : Int, continuationOffsetWithin? bound (continuationToken offset) =
      if 0 ≤ offset ∧ bound.admits (digitChars offset.natAbs).length then some offset.toNat
      else none) ∧
    ∀ token,
      (∃ offset, continuationOffsetWithin? bound token = some offset ∧
        StandsFor bound token offset) ∨
      (continuationOffsetWithin? bound token = none ∧
        ∀ offset, ¬ StandsFor bound token offset) := by
  refine ⟨fun offset => ?_, continuationOffsetWithin?_continuationToken bound, fun token => ?_⟩
  · rw [continuationToken, String.toList_ofList]
    exact encodeBase64_subset _
  · cases read : continuationOffsetWithin? bound token with
    | some offset => exact .inl ⟨offset, rfl, continuationOffsetWithin?_eq_some.mp read⟩
    | none =>
      refine .inr ⟨rfl, fun offset stands => ?_⟩
      rw [continuationOffsetWithin?_eq_some.mpr stands] at read
      cases read

end DocQuery
