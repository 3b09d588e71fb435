/-
**Numbers and strings in front of more.**

What is read at a place of a text is read there as well if more stands at its end.

* `Passes`: between two places of a text there are only characters that JSON has. Of the control
  characters these are the ones for space;
* `scalar_append`: numbers and words. A number has to end in front of what is new;
* `stringToken_append`, `fieldName_append`: strings, and names with their colon. An escape by number
  looks at what is behind it, but not across the end of its string (`exists_escape`).
-/

import Mathlib.Data.List.TakeWhile
import DocQuery.Proofs.Json.Reading

namespace DocQuery

namespace JsonReader

variable {bound : DigitBound} {here rest behind more : List Char}

/-! ### Characters -/

/-- A character that a JSON text can hold. -/
def IsTextual (c : Char) : Prop := isSpace c ∨ 0x20 ≤ c.toNat

instance : DecidablePred IsTextual := fun _ => inferInstanceAs (Decidable (_ ∨ _))

theorem isTextual_of_isAsciiDigit {c : Char} (digit : isAsciiDigit c) : IsTextual c := by
  simp only [isAsciiDigit, Bool.and_eq_true, decide_eq_true_eq] at digit
  exact .inr (Nat.le_trans (by decide) digit.1)

/-- Between two places there are only such characters. -/
def Passes (here rest : List Char) : Prop := ∃ part, here = part ++ rest ∧ ∀ c ∈ part, IsTextual c

theorem Passes.refl (here : List Char) : Passes here here := ⟨[], rfl, List.forall_mem_nil _⟩

theorem Passes.trans (first : Passes here behind) (second : Passes behind rest) :
    Passes here rest := by
  obtain ⟨part, rfl, textual⟩ := first
  obtain ⟨part', rfl, textual'⟩ := second
  exact ⟨part ++ part', by rw [List.append_assoc], List.forall_mem_append.mpr ⟨textual, textual'⟩⟩

theorem Passes.cons {c : Char} (textual : IsTextual c) (further : Passes here rest) :
    Passes (c :: here) rest := by
  obtain ⟨part, rfl, all⟩ := further
  exact ⟨c :: part, rfl, List.forall_mem_cons.mpr ⟨textual, all⟩⟩

theorem passes_dropWhile {p : Char → Bool} (textual : ∀ c, p c → IsTextual c) (here : List Char) :
    Passes here (here.dropWhile p) :=
  ⟨here.takeWhile p, List.takeWhile_append_dropWhile.symm,
    fun c member => textual c (List.mem_takeWhile_imp member)⟩

theorem passes_skipSpace (here : List Char) : Passes here (skipSpace here) :=
  passes_dropWhile (fun _ => .inl) here

theorem passes_digits (here : List Char) : Passes here (here.dropWhile isAsciiDigit) :=
  passes_dropWhile (fun _ => isTextual_of_isAsciiDigit) here

theorem skipSpace_append (visible : skipSpace here ≠ []) :
    skipSpace (here ++ more) = skipSpace here ++ more := by
  rw [skipSpace, List.dropWhile_append, if_neg (by simpa [skipSpace] using visible)]
  rfl

theorem passes_found {c : Char} {left : List Char} (found : skipSpace behind = c :: left)
    (textual : IsTextual c) : Passes behind left := by
  refine (passes_skipSpace behind).trans ?_
  rw [found]
  exact .cons textual (.refl _)

theorem skipSpace_append_found {c : Char} {left : List Char} (found : skipSpace behind = c :: left)
    (more : List Char) : skipSpace (behind ++ more) = c :: (left ++ more) := by
  rw [skipSpace_append (by simp [found]), found, List.cons_append]

theorem dropWord_eq_some {word : List Char} :
    dropWord word here = some rest ↔ here = word ++ rest := by
  induction word generalizing here with
  | nil => simp [dropWord]
  | cons c word ih =>
    cases here with
    | nil => simp [dropWord]
    | cons d here =>
      by_cases same : c = d
      · subst same
        simp [dropWord, ih]
      · simp [dropWord, same, Ne.symm same]

theorem passes_word {word : List Char} (textual : word.all fun c => decide (IsTextual c))
    (rest : List Char) : Passes (word ++ rest) rest :=
  ⟨word, rfl, by simpa using textual⟩

/-! ### Numbers -/

theorem EndsNumber.append (ends : EndsNumber rest) (further : EndsNumber more) :
    EndsNumber (rest ++ more) := by
  cases rest with
  | nil => exact further
  | cons c rest => exact ends

/-- Digits end where they ended, and what is new does not go on with them. -/
theorem digits_append (further : EndsNumber more) (here : List Char) :
    (here ++ more).takeWhile isAsciiDigit = here.takeWhile isAsciiDigit ∧
      (here ++ more).dropWhile isAsciiDigit = here.dropWhile isAsciiDigit ++ more := by
  induction here with
  | nil => exact takeWhile_append_stop (List.forall_mem_nil _) fun c first => (further c first).1
  | cons c here ih =>
    cases digit : isAsciiDigit c with
    | false => simp [digit]
    | true => simp [digit, ih]

theorem wholeDigits_append {digits : List Char} (further : EndsNumber more)
    (read : wholeDigits here = some (digits, rest)) :
    Passes here rest ∧ (∃ c left, here = c :: left ∧ isAsciiDigit c) ∧
      wholeDigits (here ++ more) = some (digits, rest ++ more) := by
  fun_cases wholeDigits here
  · cases read
    exact ⟨.cons (by decide) (.refl _), ⟨_, _, rfl, by decide⟩, rfl⟩
  · next c left noZero digit =>
    obtain ⟨taken, behind⟩ := digits_append further (c :: left)
    rw [wholeDigits, if_pos digit] at read
    · cases read
      refine ⟨passes_digits _, ⟨_, _, rfl, digit⟩, ?_⟩
      rw [List.cons_append, wholeDigits, if_pos digit, ← List.cons_append, taken, behind]
      exact noZero
    · exact noZero
  · next c left noZero noDigit =>
    rw [wholeDigits, if_neg noDigit] at read
    · cases read
    · exact noZero
  · cases read

theorem fractionDigits_append {digits : List Char} (further : EndsNumber more)
    (read : fractionDigits here = some (digits, rest)) :
    Passes here rest ∧ fractionDigits (here ++ more) = some (digits, rest ++ more) := by
  fun_cases fractionDigits here
  · next c left digit =>
    obtain ⟨taken, behind⟩ := digits_append further (c :: left)
    rw [fractionDigits, if_pos digit] at read
    cases read
    refine ⟨.cons (by decide) (passes_digits _), ?_⟩
    rw [List.cons_append, List.cons_append, fractionDigits, if_pos digit, ← List.cons_append, taken,
      behind]
  · next c left noDigit =>
    rw [fractionDigits, if_neg noDigit] at read
    cases read
  · next noPoint =>
    rw [fractionDigits] at read
    · cases read
    · exact noPoint

theorem exponentDigits_append {negative : Bool} {n : Int} (further : EndsNumber more)
    (read : exponentDigits negative here = some (n, rest)) :
    Passes here rest ∧ exponentDigits negative (here ++ more) = some (n, rest ++ more) := by
  obtain ⟨taken, left⟩ := digits_append further here
  rw [exponentDigits] at read ⊢
  rw [taken, left]
  split at read
  · cases read
  · cases read
    exact ⟨passes_digits _, rfl⟩

theorem exponentPart_append {n : Int} (further : EndsNumber more)
    (read : exponentPart here = some (n, rest)) :
    Passes here rest ∧ exponentPart (here ++ more) = some (n, rest ++ more) := by
  fun_cases exponentPart here
  iterate 4
    · obtain ⟨passes, same⟩ := exponentDigits_append further read
      exact ⟨.cons (by decide) (.cons (by decide) passes), same⟩
  iterate 2
    · next left noMinus noPlus =>
      rw [exponentPart] at read
      · obtain ⟨passes, same⟩ := exponentDigits_append further read
        refine ⟨.cons (by decide) passes, ?_⟩
        cases left with
        | nil => cases read
        | cons c left =>
          rw [List.cons_append, List.cons_append, exponentPart]
          · exact same
          · exact fun _ sign => noMinus _ (congrArg (· :: left) (List.cons_eq_cons.mp sign).1)
          · exact fun _ sign => noPlus _ (congrArg (· :: left) (List.cons_eq_cons.mp sign).1)
      · exact noMinus
      · exact noPlus
  · rw [exponentPart] at read
    · cases read
    all_goals assumption

/-- An exponent does not begin with the point of a fraction. -/
theorem fractionDigits_of_exponentPart {n : Int} (read : exponentPart here = some (n, rest)) :
    fractionDigits (here ++ more) = none := by
  unfold fractionDigits
  split
  · next point =>
    cases here with
    | nil => cases read
    | cons c here =>
      obtain ⟨rfl, -⟩ := List.cons_eq_cons.mp point
      cases read
  · rfl

theorem unsignedNumber_append {negative : Bool} {v : Json} (ends : EndsNumber rest)
    (further : EndsNumber more) (read : unsignedNumber bound negative here = .ok (v, rest)) :
    Passes here rest ∧ (∃ c left, here = c :: left ∧ isAsciiDigit c) ∧
      unsignedNumber bound negative (here ++ more) = .ok (v, rest ++ more) := by
  unfold unsignedNumber at read ⊢
  cases isWhole : wholeDigits here with
  | none =>
    rw [isWhole] at read
    cases read
  | some parts =>
    obtain ⟨whole, behind⟩ := parts
    obtain ⟨passes, starts, same⟩ := wholeDigits_append further isWhole
    rw [isWhole] at read
    rw [same]
    simp only [expected, ok_bind] at read ⊢
    cases fraction : fractionDigits behind with
    | none =>
      cases exponent : exponentPart behind with
      | none =>
        simp only [fraction, exponent, Option.map_none, Option.getD_none] at read
        split at read
        · next admitted =>
          cases read
          have joined := ends.append further
          refine ⟨passes, starts, ?_⟩
          simp only [joined.fractionDigits, joined.exponentPart, Option.map_none, Option.getD_none,
            if_pos admitted]
        · cases read
      | some part =>
        obtain ⟨passes', same'⟩ := exponentPart_append further exponent
        have noFraction : fractionDigits (behind ++ more) = none :=
          fractionDigits_of_exponentPart exponent
        simp only [fraction, exponent, Option.map_none, Option.getD_none, Option.map_some,
          Option.getD_some] at read
        cases read
        refine ⟨passes.trans passes', starts, ?_⟩
        simp only [noFraction, same', Option.map_none, Option.getD_none, Option.map_some,
          Option.getD_some]
    | some decimals =>
      obtain ⟨passes', same'⟩ := fractionDigits_append further fraction
      simp only [fraction, Option.map_some, Option.getD_some] at read
      cases exponent : exponentPart decimals.2 with
      | none =>
        simp only [exponent, Option.map_none, Option.getD_none] at read
        cases read
        refine ⟨passes.trans passes', starts, ?_⟩
        simp only [same', (ends.append further).exponentPart, Option.map_none, Option.getD_none,
          Option.map_some, Option.getD_some]
      | some part =>
        obtain ⟨passes'', same''⟩ := exponentPart_append further exponent
        simp only [exponent, Option.map_some, Option.getD_some] at read
        cases read
        refine ⟨(passes.trans passes').trans passes'', starts, ?_⟩
        simp only [same', same'', Option.map_some, Option.getD_some]

theorem number_append {v : Json} (ends : EndsNumber rest) (further : EndsNumber more)
    (read : number bound here = .ok (v, rest)) :
    Passes here rest ∧ (∃ c left, here = c :: left ∧ (isAsciiDigit c ∨ c = '-')) ∧
      number bound (here ++ more) = .ok (v, rest ++ more) := by
  fun_cases number bound here
  · next left behind isWord =>
    obtain rfl := dropWord_eq_some.mp isWord
    cases read
    exact ⟨.cons (by decide) (passes_word (by decide) _), ⟨_, _, rfl, .inr rfl⟩, rfl⟩
  · next left noWord =>
    have unsigned : unsignedNumber bound true left = .ok (v, rest) := by
      rw [number, noWord] at read
      exact read
    obtain ⟨passes, ⟨c, others, rfl, digit⟩, same⟩ := unsignedNumber_append ends further unsigned
    refine ⟨.cons (by decide) passes, ⟨_, _, rfl, .inr rfl⟩, ?_⟩
    have letter : 'I' ≠ c := (ne_of_isAsciiDigit digit (by decide)).symm
    simpa [number, dropWord, letter] using same
  · next noMinus =>
    have unsigned : unsignedNumber bound false here = .ok (v, rest) := by
      rw [number] at read
      · exact read
      · exact noMinus
    obtain ⟨passes, ⟨c, others, rfl, digit⟩, same⟩ := unsignedNumber_append ends further unsigned
    refine ⟨passes, ⟨_, _, rfl, .inl digit⟩, ?_⟩
    rw [List.cons_append, number]
    · exact same
    · exact fun _ minus => noMinus others (congrArg (· :: others) (List.cons_eq_cons.mp minus).1)

/-- What is read as a number or a word is read as the same in front of more. -/
theorem scalar_append {v : Json} (ends : EndsNumber rest) (further : EndsNumber more)
    (read : scalar bound here = .ok (v, rest)) :
    Passes here rest ∧ scalar bound (here ++ more) = .ok (v, rest ++ more) := by
  fun_cases scalar bound here
  iterate 5
    · next isWord =>
      obtain rfl := dropWord_eq_some.mp isWord
      cases read
      exact ⟨passes_word (by decide) _, rfl⟩
  · next noNull noTrue noFalse noNaN noInfinity =>
    have isNumber : number bound here = .ok (v, rest) := by
      rw [scalar, noNull, noTrue, noFalse, noNaN, noInfinity] at read
      exact read
    obtain ⟨passes, ⟨c, others, rfl, starts⟩, same⟩ := number_append ends further isNumber
    refine ⟨passes, ?_⟩
    rw [List.cons_append] at same ⊢
    rw [scalar_eq_number starts, same]

/-! ### Strings -/

theorem isTextual_of_hexValue? {c : Char} {value : Nat} (digit : hexValue? c = some value) :
    IsTextual c := by
  fun_cases hexValue? c
  · next isDigit => exact isTextual_of_isAsciiDigit isDigit
  · next letter => exact .inr (Nat.le_trans (by decide) letter.1)
  · next letter => exact .inr (Nat.le_trans (by decide) letter.1)
  · next noDigit noSmall noCapital =>
    rw [hexValue?, if_neg noDigit, if_neg noSmall, if_neg noCapital] at digit
    cases digit

theorem isTextual_of_unit? {a b c d : Char} {value : Nat} (read : unit? a b c d = some value) :
    IsTextual a ∧ IsTextual b ∧ IsTextual c ∧ IsTextual d := by
  simp only [unit?, Option.bind_eq_bind, Option.bind_eq_some_iff] at read
  obtain ⟨_, isA, _, isB, _, isC, _, isD, -⟩ := read
  exact ⟨isTextual_of_hexValue? isA, isTextual_of_hexValue? isB, isTextual_of_hexValue? isC,
    isTextual_of_hexValue? isD⟩

theorem isTextual_of_simpleEscape? {c d : Char} (escaped : simpleEscape? c = some d) :
    IsTextual c := by
  unfold simpleEscape? at escaped
  split at escaped
  all_goals first | decide | cases escaped

/-- A string that is closed holds all of an escape by number, if more behind it would make it
one. -/
theorem exists_escape {e f g h : Char} {left : List Char} (closed : stringRest here ≠ none)
    (escape : here ++ more = '\\' :: 'u' :: e :: f :: g :: h :: left) :
    ∃ left', here = '\\' :: 'u' :: e :: f :: g :: h :: left' := by
  have refused {others : List Char} (fails : stringChar ('\\' :: others) = none) :
      stringRest ('\\' :: others) = none := by
    rw [stringRest, fails]
    decide
  rcases here with _ | ⟨_, _ | ⟨_, _ | ⟨_, _ | ⟨_, _ | ⟨_, _ | ⟨_, left'⟩⟩⟩⟩⟩⟩
  · exact absurd (by rw [stringRest]) closed
  iterate 5
    · injections
      subst_vars
      exact absurd (refused rfl) closed
  · simp only [List.cons_append, List.cons.injEq] at escape
    obtain ⟨rfl, rfl, rfl, rfl, rfl, rfl, -⟩ := escape
    exact ⟨left', rfl⟩

theorem passes_unit {a b c d : Char} {unit : Nat} (isUnit : unit? a b c d = some unit)
    (rest : List Char) : Passes ('\\' :: 'u' :: a :: b :: c :: d :: rest) rest := by
  obtain ⟨isA, isB, isC, isD⟩ := isTextual_of_unit? isUnit
  exact .cons (by decide) (.cons (by decide) (.cons isA (.cons isB (.cons isC (.cons isD
    (.refl _))))))

/-- A character of a string that is closed behind it is read as the same in front of more. -/
theorem stringChar_append {c : Char} {fewer : rest.length < here.length} (more : List Char)
    (read : stringChar here = some (c, ⟨rest, fewer⟩)) (closed : stringRest rest ≠ none) :
    Passes here rest ∧ ∃ fewer', stringChar (here ++ more) = some (c, ⟨rest ++ more, fewer'⟩) := by
  fun_cases stringChar here
  · next refused =>
    simp only [stringChar, refused, reduceCtorEq] at read
  · next high isHigh _ isPair =>
    obtain ⟨low, isLow, -⟩ := Option.bind_eq_some_iff.mp isPair
    simp only [stringChar, isHigh, isPair] at read
    cases read
    refine ⟨(passes_unit isHigh _).trans (passes_unit isLow _), ?_⟩
    simp only [List.cons_append]
    rw [stringChar, isHigh]
    dsimp only
    rw [isPair]
    exact ⟨lt_add_succ _ 11, rfl⟩
  · next high isHigh noPair =>
    simp only [stringChar, isHigh, noPair] at read
    cases read
    refine ⟨passes_unit isHigh _, ?_⟩
    simp only [List.cons_append]
    rw [stringChar, isHigh]
    dsimp only
    rw [noPair]
    exact ⟨lt_add_succ _ 5, rfl⟩
  · next noEscape =>
    rw [stringChar, Option.map_eq_some_iff] at read
    · obtain ⟨unit, isUnit, same⟩ := read
      cases same
      refine ⟨passes_unit isUnit _, ?_⟩
      simp only [List.cons_append]
      rw [stringChar, isUnit]
      · exact ⟨lt_add_succ _ 5, rfl⟩
      · intro e f g h left escape
        obtain ⟨left', escape⟩ := exists_escape closed escape
        exact noEscape _ _ _ _ _ escape
    · exact noEscape
  · next escaped left noPair noUnit =>
    rw [stringChar, Option.map_eq_some_iff] at read
    · obtain ⟨d, isEscape, same⟩ := read
      cases same
      have noNumber : escaped ≠ 'u' := by
        rintro rfl
        cases isEscape
      refine ⟨.cons (by decide) (.cons (isTextual_of_simpleEscape? isEscape) (.refl _)), ?_⟩
      simp only [List.cons_append]
      rw [stringChar, isEscape]
      · exact ⟨lt_add_succ _ 1, rfl⟩
      · exact fun _ _ _ _ _ _ _ _ _ same => absurd same noNumber
      · exact fun _ _ _ _ _ same => absurd same noNumber
    · exact noPair
    · exact noUnit
  · next first others noPair noUnit noEscape refused =>
    rw [stringChar, if_pos refused] at read
    · cases read
    all_goals assumption
  · next first others noPair noUnit noEscape plain =>
    rw [stringChar, if_neg plain] at read
    · cases read
      obtain ⟨noControl, noBackslash⟩ := not_or.mp plain
      refine ⟨.cons (.inr (Nat.not_lt.mp noControl)) (.refl _), ?_⟩
      rw [List.cons_append, stringChar, if_neg plain]
      · exact ⟨lt_add_succ _ 0, rfl⟩
      · exact fun _ _ _ _ _ _ _ _ _ same => absurd same noBackslash
      · exact fun _ _ _ _ _ same => absurd same noBackslash
      · exact fun _ _ same => absurd same noBackslash
    all_goals assumption
  · cases read

theorem stringRest_append {cs : List Char} {fewer : rest.length < here.length}
    (more : List Char) (read : stringRest here = some (cs, ⟨rest, fewer⟩)) :
    Passes here rest ∧ ∃ fewer', stringRest (here ++ more) = some (cs, ⟨rest ++ more, fewer'⟩) := by
  fun_induction stringRest here generalizing cs rest
  · cases read
    refine ⟨.cons (by decide) (.refl _), ?_⟩
    rw [List.cons_append, stringRest]
    exact ⟨_, rfl⟩
  · cases read
  · cases read
  · cases read
  · next first others noQuote c behind less isFirst cs' rest' fewer' isRest ih =>
    cases read
    obtain ⟨passes, same⟩ := stringChar_append more isFirst (by simp [isRest])
    obtain ⟨passes', fewer'', same'⟩ := ih isRest
    refine ⟨passes.trans passes', ?_⟩
    rw [List.cons_append] at same ⊢
    obtain ⟨less', same⟩ := same
    rw [stringRest, same]
    · simp only
      rw [same']
      exact ⟨Nat.lt_trans fewer'' less', rfl⟩
    · exact noQuote

theorem stringToken_append {text : String} {fewer : rest.length < here.length} (more : List Char)
    (read : stringToken here = some (text, ⟨rest, fewer⟩)) :
    Passes here rest ∧
      ∃ fewer', stringToken (here ++ more) = some (text, ⟨rest ++ more, fewer'⟩) := by
  fun_cases stringToken here
  · next left =>
    rw [stringToken, Option.map_eq_some_iff] at read
    obtain ⟨⟨cs, behind, less⟩, isRest, same⟩ := read
    cases same
    obtain ⟨passes, less', same⟩ := stringRest_append more isRest
    refine ⟨.cons (by decide) passes, ?_⟩
    rw [List.cons_append, stringToken, same]
    exact ⟨_, rfl⟩
  · next noQuote =>
    rw [stringToken] at read
    · cases read
    · exact noQuote

theorem fieldName_append {name : String} {fewer : rest.length < here.length} (more : List Char)
    (some : rest ≠ []) (read : fieldName here = .some (name, ⟨rest, fewer⟩)) :
    Passes here rest ∧
      ∃ fewer', fieldName (here ++ more) = .some (name, ⟨rest ++ more, fewer'⟩) := by
  revert read
  fun_cases fieldName here
  · rintro ⟨⟩
  · next name behind less isName left colon =>
    rintro ⟨⟩
    obtain ⟨passes, less', same⟩ := stringToken_append more isName
    have colon' := skipSpace_append_found colon more
    have toColon : Passes behind left := passes_found colon (by decide)
    refine ⟨(passes.trans toColon).trans (passes_skipSpace left), ?_⟩
    rw [fieldName, same]
    dsimp only
    split
    · next found =>
      rw [colon'] at found
      cases found
      refine ⟨?_, ?_⟩
      · have toLeft := length_skipSpace_le (behind ++ more)
        have toRest := length_skipSpace_le (left ++ more)
        rw [colon', List.length_cons] at toLeft
        rw [← skipSpace_append some]
        omega
      · simp only [skipSpace_append some]
    · next other => exact absurd colon' (other _)
  · rintro ⟨⟩

end JsonReader

end DocQuery
