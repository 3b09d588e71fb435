/-
**Tokens and their spellings.**

* `pieces?`: the tokens of some characters without their places in the text. `scan_pieces` and
  `exists_scan` say that reading a text finds these tokens, and that their places point at their
  spellings;
* `Reads`: some characters are read as given tokens if what stands behind them has a property, with
  `Reads.append` for what stands side by side;
* `reads_name`, `reads_parameter`, `reads_string`, `reads_integer`, `reads_float`: the spelling of
  each token is read as this token.
-/

import Mathlib.Data.Nat.Init
import DocQuery.Proofs.Number.ReadBack

namespace DocQuery

/-! ### Tokens without places -/

/-- A token without its place: what it is, and its characters. -/
structure Piece where
  kind : TokenKind
  spelling : List Char

/-- The tokens of some characters without their places. -/
def pieces? (here : List Char) : Option (List Piece) :=
  match here with
  | [] => some []
  | c :: rest =>
    if isBlank c then pieces? rest
    else
      match lexeme c rest with
      | .error _ => none
      | .ok found => (pieces? found.rest).map (⟨found.kind, found.spelling⟩ :: ·)
termination_by here.length
decreasing_by
  · simp
  · exact found.length_rest_lt

/-- A token of a text without its place. -/
def Token.piece (text : List Char) (token : Token) : Piece :=
  ⟨token.kind, (text.drop token.position.offset).take token.length⟩

theorem Position.after_offset (start : Position) (cs : List Char) :
    (start.after cs).offset = start.offset + cs.length := by
  induction cs generalizing start with
  | nil => rfl
  | cons c cs ih =>
    have step : (start.next c).offset = start.offset + 1 := by
      unfold next
      split <;> rfl
    rw [after, List.foldl_cons, ← after, ih, step, List.length_cons]
    omega

/-- Reading finds the tokens, and their places point at their spellings. -/
theorem pieces?_eq (before here : List Char) (start : Position)
    (placed : start.offset = before.length) :
    pieces? here = (scanFrom here start).toOption.map fun found =>
      found.1.map (Token.piece (before ++ here)) := by
  fun_induction pieces? here generalizing before start with
  | case1 =>
    rw [scanFrom.eq_def]
    rfl
  | case2 c rest blank ih =>
    have next := ih (before ++ [c]) (start.next c) (by
      have := start.after_offset [c]
      simp only [Position.after, List.foldl_cons, List.foldl_nil] at this
      rw [this, placed, List.length_append])
    rw [scanFrom.eq_def]
    simp only [blank, if_true, next, List.append_assoc]
    rfl
  | case3 c rest visible fault refused =>
    rw [scanFrom.eq_def]
    simp only [visible, refused]
    rfl
  | case4 c rest visible found lexed ih =>
    have next := ih (before ++ found.spelling) (start.after found.spelling) (by
      rw [start.after_offset, placed, List.length_append])
    have piece : Token.piece (before ++ c :: rest) ⟨found.kind, start, found.spelling.length⟩ =
        ⟨found.kind, found.spelling⟩ := by
      have taken : (c :: rest).take found.spelling.length = found.spelling :=
        (congrArg (List.take found.spelling.length) found.complete).symm.trans List.take_left
      rw [Token.piece, placed, List.drop_left, taken]
    have step : scanFrom (c :: rest) start =
        (scanFrom found.rest (start.after found.spelling)).map fun behind =>
          (⟨found.kind, start, found.spelling.length⟩ :: behind.1, behind.2) := by
      rw [scanFrom.eq_def]
      simp only [visible, lexed]
      cases scanFrom found.rest (start.after found.spelling) <;> rfl
    rw [step, next, List.append_assoc, found.complete]
    cases scanFrom found.rest (start.after found.spelling) with
    | error failure => rfl
    | ok behind => simp only [Except.map, Except.toOption, Option.map_some, List.map_cons, piece]

/-- What is read from a text are its tokens. -/
theorem scan_pieces {text : List Char} {tokens : List Token} {stop : Position}
    (found : scan text = .ok (tokens, stop)) :
    pieces? text = some (tokens.map (Token.piece text)) := by
  rw [pieces?_eq [] text .origin rfl, show scanFrom text .origin = _ from found]
  rfl

/-- A text that has tokens can be read. -/
theorem exists_scan {text : List Char} {pieces : List Piece} (found : pieces? text = some pieces) :
    ∃ tokens stop, scan text = .ok (tokens, stop) ∧ tokens.map (Token.piece text) = pieces := by
  rw [pieces?_eq [] text .origin rfl] at found
  unfold scan
  cases result : scanFrom text .origin with
  | error failure =>
    rw [result] at found
    cases found
  | ok behind =>
    rw [result] at found
    cases found
    exact ⟨behind.1, behind.2, rfl, rfl⟩

theorem pieces?_blank {c : Char} (blank : isBlank c) (rest : List Char) :
    pieces? (c :: rest) = pieces? rest := by
  rw [pieces?.eq_def]
  exact if_pos blank

theorem pieces?_lexeme {c : Char} {rest : List Char} (visible : isBlank c = false)
    {found : Lexeme (c :: rest)} (lexed : lexeme c rest = .ok found) :
    pieces? (c :: rest) = (pieces? found.rest).map (⟨found.kind, found.spelling⟩ :: ·) := by
  rw [pieces?.eq_def]
  simp only [visible, lexed]
  rfl

theorem pieces?_fault {c : Char} {rest : List Char} (visible : isBlank c = false)
    {fault : LexicalFault} (refused : lexeme c rest = .error fault) :
    pieces? (c :: rest) = none := by
  rw [pieces?.eq_def]
  simp only [visible, refused]
  rfl

/-! ### Reading piece by piece -/

/-- Some characters are read as given tokens if what stands behind them has a property. -/
def Reads (behind : List Char → Prop) (cs : List Char) (pieces : List Piece) : Prop :=
  ∀ rest, behind rest → pieces? (cs ++ rest) = (pieces? rest).map (pieces ++ ·)

/-- Whatever stands here. -/
def Anything (_ : List Char) : Prop := True

/-- Nothing stands here, or a blank, a comma or a closing parenthesis. -/
def Delimited (rest : List Char) : Prop := ∀ c ∈ rest.head?, c = ' ' ∨ c = ',' ∨ c = ')'

/-- Nothing stands here that could continue a name. -/
def EndsName (rest : List Char) : Prop := ∀ c ∈ rest.head?, isNameChar c = false

section

variable {behind behind' : List Char → Prop} {cs cs' : List Char} {pieces pieces' : List Piece}

theorem Reads.weaken (reads : Reads behind cs pieces) (fits : ∀ rest, behind' rest → behind rest) :
    Reads behind' cs pieces := fun rest holds => reads rest (fits rest holds)

theorem map_append_map (found : Option (List Piece)) :
    (found.map (pieces' ++ ·)).map (pieces ++ ·) = found.map (pieces ++ pieces' ++ ·) := by
  cases found with
  | none => rfl
  | some behind => exact congrArg some (List.append_assoc pieces pieces' behind).symm

theorem Reads.nil : Reads behind [] [] := by
  intro rest _
  rw [List.nil_append]
  cases pieces? rest <;> rfl

theorem Reads.append (reads : Reads behind cs pieces) (reads' : Reads behind' cs' pieces')
    (sets : ∀ rest, behind' rest → behind (cs' ++ rest)) :
    Reads behind' (cs ++ cs') (pieces ++ pieces') := by
  intro rest holds
  rw [List.append_assoc, reads _ (sets rest holds), reads' rest holds, map_append_map]

end

/-! ### Blanks and symbols -/

theorem reads_blank : Reads Anything [' '] [] := by
  intro rest _
  rw [List.singleton_append, pieces?_blank rfl]
  cases pieces? rest <;> rfl

/-- A symbol is read if it ends there. -/
theorem reads_symbol {behind : List Char → Prop} {mark : Symbol} {c : Char} {spelling : String}
    (visible : isBlank c = false) (lexed : ∀ rest, behind rest →
      lexeme c rest = .ok (.single (.symbol mark spelling) c rest)) :
    Reads behind [c] [⟨.symbol mark spelling, [c]⟩] :=
  fun rest holds => pieces?_lexeme visible (lexed rest holds)

theorem reads_opening : Reads Anything ['('] [⟨.symbol .leftParen "(", ['(']⟩] :=
  reads_symbol rfl fun _ _ => rfl

theorem reads_closing : Reads Anything [')'] [⟨.symbol .rightParen ")", [')']⟩] :=
  reads_symbol rfl fun _ _ => rfl

theorem reads_comma : Reads Anything [','] [⟨.symbol .comma ",", [',']⟩] :=
  reads_symbol rfl fun _ _ => rfl

theorem reads_star : Reads Anything ['*'] [⟨.symbol .star "*", ['*']⟩] :=
  reads_symbol rfl fun _ _ => rfl

theorem reads_dot : Reads Anything ['.'] [⟨.symbol .dot ".", ['.']⟩] :=
  reads_symbol rfl fun _ _ => rfl

/-! ### Names -/

/-- The code points of the blanks. -/
def blankCodes : List Nat :=
  [9, 10, 11, 12, 13, 0x1C, 0x1D, 0x1E, 0x1F, 0x20, 0x85, 0xA0, 0x1680, 0x2000, 0x2001, 0x2002,
   0x2003, 0x2004, 0x2005, 0x2006, 0x2007, 0x2008, 0x2009, 0x200A, 0x2028, 0x2029, 0x202F, 0x205F,
   0x3000]

theorem mem_blankCodes {c : Char} (blank : isBlank c) : c.toNat ∈ blankCodes := by
  unfold isBlank at blank
  generalize c.toNat = code at blank
  simp only [Bool.or_eq_true, Bool.and_eq_true, decide_eq_true_eq, beq_iff_eq] at blank
  simp only [blankCodes, List.mem_cons, List.not_mem_nil, or_false]
  omega

/-- No name begins with a blank. -/
theorem isBlank_of_isNameStart {c : Char} (start : isNameStart c) : isBlank c = false := by
  refine Bool.eq_false_iff.mpr fun blank => ?_
  have noLetter : ∀ code ∈ blankCodes, inRanges letterRanges code = false := by decide +kernel
  have noUnderscore : ∀ code ∈ blankCodes, code ≠ '_'.toNat := by decide
  simp only [isNameStart, isLetter, noLetter _ (mem_blankCodes blank), Bool.false_or,
    beq_iff_eq] at start
  subst start
  exact noUnderscore _ (mem_blankCodes blank) rfl

theorem isBlank_of_isAsciiDigit {c : Char} (digit : isAsciiDigit c) : isBlank c = false := by
  refine Bool.eq_false_iff.mpr fun blank => ?_
  have noDigit : ∀ code ∈ blankCodes, ¬ ('0'.toNat ≤ code ∧ code ≤ '9'.toNat) := by decide
  simp only [isAsciiDigit, Bool.and_eq_true, decide_eq_true_eq] at digit
  exact noDigit _ (mem_blankCodes blank) digit

theorem isNameStart_of_isAsciiDigit {c : Char} (digit : isAsciiDigit c) :
    isNameStart c = false := by
  simp only [isAsciiDigit, Bool.and_eq_true, decide_eq_true_eq] at digit
  have early : c.toNat < 0x41 := Nat.lt_of_le_of_lt digit.2 (by decide)
  have noLetter : isLetter c = false := if_pos early
  have noUnderscore : c ≠ '_' := by
    rintro rfl
    exact absurd early (by decide)
  simp [isNameStart, noLetter, noUnderscore]

theorem isNameChar_of_isNameStart {c : Char} (start : isNameStart c) : isNameChar c := by
  simp only [isNameStart, isNameChar, isAlphanumeric, Bool.or_eq_true] at start ⊢
  rcases start with letter | underscore
  · exact .inl (.inl letter)
  · exact .inr underscore

/-- Some characters are a name: a letter or an underscore, and then letters, numerals and
underscores. -/
def IsName : List Char → Prop
  | [] => False
  | first :: more => isNameStart first ∧ ∀ c ∈ more, isNameChar c

instance : DecidablePred IsName
  | [] => inferInstanceAs (Decidable False)
  | _ :: _ => @instDecidableAnd _ _ _ (List.decidableBAll _ _)

theorem Delimited.endsName {rest : List Char} (delimited : Delimited rest) : EndsName rest := by
  intro c first
  rcases delimited c first with rfl | rfl | rfl <;> decide +kernel

/-- What begins like a name is one, whatever stands behind it. -/
theorem lexeme_name {first : Char} (start : isNameStart first) (rest : List Char) :
    lexeme first rest = .ok (nameLexeme first rest
      fun name => .ofWord (String.ofList (first :: name))) := by
  have noQuote : first ≠ '\'' := by
    rintro rfl
    revert start
    decide +kernel
  have noDigit : ¬ isAsciiDigit first := by
    intro digit
    rw [isNameStart_of_isAsciiDigit digit] at start
    cases start
  have noMinus : ¬ (first = '-' ∧ startsWithDigit rest) := by
    rintro ⟨rfl, -⟩
    revert start
    decide +kernel
  rw [lexeme, dif_neg noQuote, dif_neg noDigit, dif_neg noMinus, if_pos start]

/-- A name is read whole if it ends there. -/
theorem reads_name {cs : List Char} (name : IsName cs) :
    Reads EndsName cs [⟨.ofWord (String.ofList cs), cs⟩] := by
  intro rest ends
  cases cs with
  | nil => exact name.elim
  | cons first more =>
  obtain ⟨start, follow⟩ := name
  obtain ⟨taken, left⟩ := takeWhile_append_stop follow ends
  rw [List.cons_append, pieces?_lexeme (isBlank_of_isNameStart start) (lexeme_name start _)]
  simp only [nameLexeme, taken, left]
  rfl

/-- A parameter is read whole if it ends there. -/
theorem reads_parameter {cs : List Char} (name : IsName cs) :
    Reads EndsName ('@' :: cs) [⟨.parameter (String.ofList cs), '@' :: cs⟩] := by
  intro rest ends
  cases cs with
  | nil => exact name.elim
  | cons first more =>
  obtain ⟨start, follow⟩ := name
  have all : ∀ c ∈ first :: more, isNameChar c := by
    intro c member
    rcases List.mem_cons.mp member with rfl | member
    · exact isNameChar_of_isNameStart start
    · exact follow c member
  obtain ⟨taken, left⟩ := takeWhile_append_stop all ends
  rw [List.cons_append] at taken left
  have lexed : lexeme '@' (first :: (more ++ rest)) = .ok (nameLexeme '@' (first :: (more ++ rest))
      fun name => .parameter (String.ofList name)) := by
    show parameterLexeme (first :: (more ++ rest)) = _
    rw [parameterLexeme, if_pos start]
  rw [List.cons_append, List.cons_append, pieces?_lexeme (by decide) lexed]
  simp only [nameLexeme, taken, left]
  rfl

/-! ### Reserved words -/

theorem isName_keywordTitle (word : Keyword) : IsName (TokenKind.keywordTitle word).toList := by
  cases word <;> decide +kernel

theorem ofWord_keywordTitle (word : Keyword) : TokenKind.ofWord (TokenKind.keywordTitle word) =
    .keyword word (TokenKind.keywordTitle word) := by
  cases word <;> decide +kernel

/-- A keyword is read from its name. -/
theorem reads_keyword (word : Keyword) : Reads EndsName (TokenKind.keywordTitle word).toList
    [⟨.keyword word (TokenKind.keywordTitle word), (TokenKind.keywordTitle word).toList⟩] := by
  have reads := reads_name (isName_keywordTitle word)
  rwa [String.ofList_toList, ofWord_keywordTitle] at reads

/-! ### Texts -/

theorem untilQuote_append {text : List Char} (unquoted : '\'' ∉ text) (rest : List Char) :
    untilQuote (text ++ '\'' :: rest) = some (text, rest) := by
  induction text with
  | nil => rfl
  | cons c text ih =>
    have other : c ≠ '\'' := fun same => unquoted (same ▸ List.mem_cons_self)
    have behind := ih fun member => unquoted (List.mem_cons_of_mem c member)
    rw [List.cons_append, untilQuote.eq_3 _ _ other, behind]
    rfl

theorem stringLexeme_eq {here text behind : List Char}
    (found : untilQuote here = some (text, behind)) :
    ∃ lexed, stringLexeme here = .ok lexed ∧ lexed.kind = .string (String.ofList text) ∧
      lexed.spelling = '\'' :: text ++ ['\''] ∧ lexed.rest = behind := by
  unfold stringLexeme
  split
  · next none =>
    rw [none] at found
    cases found
  · next text' behind' found' =>
    rw [found'] at found
    cases found
    exact ⟨_, rfl, rfl, rfl, rfl⟩

/-- A text in quotation marks is read if it contains none. -/
theorem reads_string {text : List Char} (unquoted : '\'' ∉ text) :
    Reads Anything ('\'' :: text ++ ['\''])
      [⟨.string (String.ofList text), '\'' :: text ++ ['\'']⟩] := by
  intro rest _
  obtain ⟨lexed, found, kind, spelling, behind⟩ :=
    stringLexeme_eq (untilQuote_append unquoted rest)
  have whole : '\'' :: text ++ ['\''] ++ rest = '\'' :: (text ++ '\'' :: rest) := by simp
  rw [whole, pieces?_lexeme rfl (show lexeme '\'' _ = .ok lexed from found), kind, spelling, behind]
  rfl

/-! ### Numbers -/

/-- Nothing stands here that could continue an integer. -/
def EndsInteger (rest : List Char) : Prop :=
  (∀ c ∈ rest.head?, isAsciiDigit c = false) ∧
    ∀ more, rest = '.' :: more → isDecimalPoint more = false

theorem numberChars_integer {digits rest : List Char} (all : ∀ c ∈ digits, isAsciiDigit c)
    (ends : EndsInteger rest) : numberChars (digits ++ rest) = (digits, none, rest) := by
  obtain ⟨taken, left⟩ := takeWhile_append_stop all ends.1
  simp only [numberChars, taken, left]
  split
  · next more =>
    rw [ends.2 more rfl]
    rfl
  · rfl

theorem numberChars_float {whole decimals rest : List Char}
    (all : ∀ c ∈ whole ++ decimals, isAsciiDigit c)
    (stop : ∀ c ∈ rest.head?, isAsciiDigit c = false) (point : isDecimalPoint (decimals ++ rest)) :
    numberChars (whole ++ '.' :: decimals ++ rest) = (whole, some decimals, rest) := by
  obtain ⟨allWhole, allDecimals⟩ := List.forall_mem_append.mp all
  obtain ⟨taken, left⟩ := takeWhile_append_stop allWhole
    (show ∀ c ∈ ('.' :: (decimals ++ rest)).head?, isAsciiDigit c = false by
      rintro c ⟨⟩
      rfl)
  obtain ⟨taken', left'⟩ := takeWhile_append_stop allDecimals stop
  rw [List.append_assoc, List.cons_append, numberChars, taken, left]
  simp only [point, if_true, taken', left']

theorem isDecimalPoint_digits {digits : List Char} (some : digits ≠ [])
    (all : ∀ c ∈ digits, isAsciiDigit c) (rest : List Char) : isDecimalPoint (digits ++ rest) := by
  cases digits with
  | nil => exact absurd rfl some
  | cons c digits =>
    simp [isDecimalPoint, isNameStart_of_isAsciiDigit (all c List.mem_cons_self)]

theorem numberChars_pointed {cs whole decimals rest : List Char}
    (pointed : Pointed cs whole decimals)
    (stop : ∀ c ∈ rest.head?, isAsciiDigit c = false) :
    numberChars (cs ++ rest) = (whole, some decimals, rest) := by
  rw [pointed.split]
  exact numberChars_float pointed.digits stop (isDecimalPoint_digits pointed.decimals_ne_nil
    (fun c member => pointed.digits c (List.mem_append_right _ member)) rest)

/-- A number is read whole if it ends there and is not too long. -/
theorem pieces?_number (negative : Bool) {cs whole rest : List Char}
    {decimals : Option (List Char)} (begins : startsWithDigit cs)
    (found : numberChars (cs ++ rest) = (whole, decimals, rest))
    (short : isOversized (cs ++ rest) = false) :
    pieces? ((signText negative).toList ++ cs ++ rest) = (pieces? rest).map
      (⟨numberKind negative whole decimals, (signText negative).toList ++ cs⟩ :: ·) := by
  have spelling : numberSpelling whole decimals = cs := by
    have complete := numberChars_complete (cs ++ rest)
    rw [found] at complete
    exact List.append_cancel_right complete
  cases cs with
  | nil => cases begins
  | cons first more =>
    have digit : isAsciiDigit first := begins
    cases negative with
    | false =>
      have noQuote : first ≠ '\'' := by
        rintro rfl
        cases digit
      have lexed : lexeme first (more ++ rest) =
          .ok (unsignedLexeme first (more ++ rest) digit) := by
        rw [lexeme, dif_neg noQuote, dif_pos digit]
        exact if_neg (Bool.eq_false_iff.mp short)
      rw [show (signText false).toList ++ first :: more ++ rest = first :: (more ++ rest) from rfl,
        pieces?_lexeme (isBlank_of_isAsciiDigit digit) lexed]
      rw [List.cons_append] at found
      simp only [unsignedLexeme, found, spelling]
      rfl
    | true =>
      have lexed : lexeme '-' (first :: more ++ rest) =
          .ok (negativeLexeme (first :: more ++ rest)) := by
        rw [lexeme, dif_neg (by decide), dif_neg (by decide), dif_pos ⟨rfl, digit⟩]
        exact if_neg (Bool.eq_false_iff.mp short)
      rw [show (signText true).toList ++ first :: more ++ rest =
        '-' :: (first :: more ++ rest) from rfl, pieces?_lexeme rfl lexed]
      simp only [negativeLexeme, found, spelling]
      rfl

theorem Delimited.endsInteger {rest : List Char} (delimited : Delimited rest) :
    EndsInteger rest := by
  constructor
  · intro c first
    rcases delimited c first with rfl | rfl | rfl <;> decide
  · rintro more rfl
    rcases delimited '.' rfl with point | point | point <;> cases point

theorem startsWithDigit_of_all {digits : List Char} (some : digits ≠ [])
    (all : ∀ c ∈ digits, isAsciiDigit c) (rest : List Char) : startsWithDigit (digits ++ rest) := by
  cases digits with
  | nil => exact absurd rfl some
  | cons c digits => exact all c List.mem_cons_self

/-- An integer is read if it is not too long. -/
theorem reads_integer {value : Int} (bounded : value.natAbs < power 10 maxIntegerDigits) :
    Reads Delimited (toString value).toList [⟨.integer value, (toString value).toList⟩] := by
  intro rest delimited
  have all : ∀ c ∈ digitChars value.natAbs, isAsciiDigit c := fun _ => isAsciiDigit_digitChars
  have found := numberChars_integer all delimited.endsInteger
  have length : (digitChars value.natAbs).length ≤ maxIntegerDigits :=
    (length_digitChars_le (by decide)).mpr bounded
  have short : isOversized (digitChars value.natAbs ++ rest) = false := by
    rw [isOversized, found]
    simpa using length
  have begins := startsWithDigit_of_all (digitChars_ne_nil value.natAbs) all []
  rw [List.append_nil] at begins
  have text : (toString value).toList =
      (signText (decide (value < 0))).toList ++ digitChars value.natAbs := by
    cases value with
    | ofNat n => exact Nat.toList_repr
    | negSucc n =>
      show ("-" ++ Nat.repr (n + 1)).toList = _
      rw [String.toList_append, Nat.toList_repr, decide_eq_true (Int.negSucc_lt_zero n)]
      rfl
  have kind : numberKind (decide (value < 0)) (digitChars value.natAbs) none = .integer value := by
    simp only [numberKind, asciiValue_digitChars, decide_eq_true_eq]
    split <;> exact congrArg TokenKind.integer (by omega)
  rw [text, pieces?_number _ begins found short, kind]
  rfl

/-- A natural number is read if it is not too long. -/
theorem reads_natural {count : Nat} (bounded : count < power 10 maxIntegerDigits) :
    Reads Delimited (toString count).toList [⟨.integer count, (toString count).toList⟩] :=
  @reads_integer (Int.ofNat count) bounded

/-- A finite number is read. -/
theorem reads_float (negative : Bool) {units : Nat} (representable : Representable units) :
    Reads Delimited (Binary64.finite negative units representable).positionalText.toList
      [⟨.float (.finite negative units representable),
        (Binary64.finite negative units representable).positionalText.toList⟩] := by
  intro rest delimited
  obtain ⟨whole, decimals, pointed, reads⟩ := positional_reads representable
  have found := numberChars_pointed pointed delimited.endsInteger.1
  have short : isOversized ((shortestDecimal units).positional.toList ++ rest) = false := by
    rw [isOversized, found]
    rfl
  have begins : startsWithDigit (shortestDecimal units).positional.toList := by
    rw [pointed.split]
    exact startsWithDigit_of_all pointed.whole_ne_nil
      (fun c member => pointed.digits c (List.mem_append_left _ member)) _
  have kind : numberKind negative whole (some decimals) =
      .float (.finite negative units representable) := congrArg TokenKind.float (reads negative)
  rw [Binary64.positionalText, String.toList_append, pieces?_number negative begins found short,
    kind]
  rfl

end DocQuery
