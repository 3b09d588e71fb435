/-
**The lexical grammar.**

* `IsToken`: how a token may be spelled;
* `Piece.EndsBefore`: what may stand behind a token so that it ends there. A number looks two
  characters ahead, a name, a parameter and two of the symbols look one ahead, a text none;
* `lexeme_sound`, `IsToken.reads`: the first token of some characters is spelled by the grammar and
  ends where it has to, and whatever is spelled by the grammar and ends so is read as that token;
* `Piece.WellSpelled`: what holds of every token that is read, whatever the text.
-/

import DocQuery.Proofs.Query.Spelling

namespace DocQuery

/-! ### Spellings -/

/-- The symbols and their spellings. -/
def symbolSpellings : List (Symbol × String) :=
  [(.notEqual, "!="), (.notEqual, "<>"), (.lessOrEqual, "<="), (.greaterOrEqual, ">="),
   (.less, "<"), (.greater, ">"), (.star, "*"), (.dot, "."), (.comma, ","), (.leftParen, "("),
   (.rightParen, ")"), (.equal, "=")]

/-- The sign of a number. -/
def signChars (negative : Bool) : List Char := (signText negative).toList

theorem signChars_true : signChars true = ['-'] := rfl

theorem signChars_false : signChars false = [] := rfl

/-- Some characters spell a token. -/
inductive IsToken : TokenKind → List Char → Prop
  | string {text : List Char} (unquoted : '\'' ∉ text) :
    IsToken (.string (String.ofList text)) ('\'' :: text ++ ['\''])
  | integer (negative : Bool) {digits : List Char} (some : digits ≠ [])
    (all : ∀ c ∈ digits, isAsciiDigit c) (short : digits.length ≤ maxIntegerDigits) :
    IsToken (numberKind negative digits none) (signChars negative ++ digits)
  | float (negative : Bool) {whole decimals : List Char} (some : whole ≠ [])
    (all : ∀ c ∈ whole ++ decimals, isAsciiDigit c) :
    IsToken (numberKind negative whole (.some decimals))
      (signChars negative ++ (whole ++ '.' :: decimals))
  | word {name : List Char} (isName : IsName name) : IsToken (.ofWord (String.ofList name)) name
  | parameter {name : List Char} (isName : IsName name) :
    IsToken (.parameter (String.ofList name)) ('@' :: name)
  | symbol {mark : Symbol} {spelling : String} (listed : (mark, spelling) ∈ symbolSpellings) :
    IsToken (.symbol mark spelling) spelling.toList

/-- A token ends in front of some characters. -/
def Piece.EndsBefore (piece : Piece) (rest : List Char) : Prop :=
  match piece.kind with
  | .string _ => True
  | .integer _ => EndsInteger rest
  | .float _ => (∀ c ∈ rest.head?, isAsciiDigit c = false) ∧
    (piece.spelling.getLast? = some '.' → isDecimalPoint rest)
  | .symbol .less _ => ∀ c ∈ rest.head?, c ≠ '>' ∧ c ≠ '='
  | .symbol .greater _ => ∀ c ∈ rest.head?, c ≠ '='
  | .symbol .. => True
  | _ => EndsName rest

/-- A word is a literal, a keyword or a name. -/
theorem ofWord_cases (spelling : String) :
    (∃ value, TokenKind.ofWord spelling = .boolean value) ∨ TokenKind.ofWord spelling = .null ∨
      (∃ word, TokenKind.ofWord spelling = .keyword word spelling) ∨
      TokenKind.ofWord spelling = .identifier spelling := by
  simp only [TokenKind.ofWord]
  split
  · exact .inl ⟨true, rfl⟩
  split
  · exact .inl ⟨false, rfl⟩
  split
  · exact .inr (.inl rfl)
  split
  · next word _ => exact .inr (.inr (.inl ⟨word, rfl⟩))
  · exact .inr (.inr (.inr rfl))

theorem eq_of_ofWord_identifier {spelling name : String}
    (isWord : TokenKind.ofWord spelling = .identifier name) : spelling = name := by
  rcases ofWord_cases spelling with ⟨_, kind⟩ | kind | ⟨_, kind⟩ | kind <;>
  · rw [isWord] at kind
    cases kind <;> rfl

theorem eq_of_ofWord_keyword {spelling written : String} {word : Keyword}
    (isWord : TokenKind.ofWord spelling = .keyword word written) : spelling = written := by
  rcases ofWord_cases spelling with ⟨_, kind⟩ | kind | ⟨_, kind⟩ | kind <;>
  · rw [isWord] at kind
    cases kind <;> rfl

theorem endsBefore_ofWord {spelling : String} {cs rest : List Char} :
    Piece.EndsBefore ⟨.ofWord spelling, cs⟩ rest ↔ EndsName rest := by
  rcases ofWord_cases spelling with ⟨value, kind⟩ | kind | ⟨word, kind⟩ | kind <;>
  · rw [kind]
    rfl

/-- Every token ends at the end. -/
theorem endsBefore_nil (piece : Piece) : piece.EndsBefore [] := by
  have none (property : Char → Prop) : ∀ c ∈ ([] : List Char).head?, property c := nofun
  unfold Piece.EndsBefore
  split
  · trivial
  · exact ⟨none _, nofun⟩
  · exact ⟨none _, fun _ => rfl⟩
  · exact none _
  · exact none _
  · trivial
  · exact none _

/-- A token still ends there if what follows is cut off in front of a character that begins no
name. -/
theorem Piece.EndsBefore.shorten {piece : Piece} {kept cut : List Char} {c : Char}
    (ends : piece.EndsBefore (kept ++ c :: cut)) (noName : isNameStart c = false) :
    piece.EndsBefore kept := by
  cases kept with
  | nil => exact endsBefore_nil piece
  | cons first more =>
    obtain ⟨kind, spelling⟩ := piece
    cases kind with
    | integer =>
      refine ⟨ends.1, fun behind point => ?_⟩
      cases point
      have separates := ends.2 _ rfl
      cases more with
      | nil => simp [isDecimalPoint, noName] at separates
      | cons => exact separates
    | symbol mark => cases mark <;> exact ends
    | _ => exact ends

/-! ### What is read is spelled by the grammar -/

theorem isName_takeWhile {first : Char} (start : isNameStart first) (rest : List Char) :
    IsName (first :: rest.takeWhile isNameChar) :=
  ⟨start, fun c member => List.all_eq_true.mp List.all_takeWhile c member⟩

/-- The first character behind those of a kind is of another kind. -/
theorem head?_dropWhile (p : Char → Bool) (cs : List Char) :
    ∀ c ∈ (cs.dropWhile p).head?, p c = false := by
  intro c first
  have stop := List.head?_dropWhile_not p cs
  rw [first] at stop
  exact stop

theorem untilQuote_unquoted {here text rest : List Char}
    (found : untilQuote here = some (text, rest)) : '\'' ∉ text := by
  fun_induction untilQuote here generalizing text with
  | case1 => cases found
  | case2 rest =>
    cases found
    exact List.not_mem_nil
  | case3 c others other ih =>
    obtain ⟨⟨inner, behind⟩, inside, equal⟩ := Option.map_eq_some_iff.mp found
    cases equal
    exact List.not_mem_cons_of_ne_of_not_mem (Ne.symm other) (ih inside)

/-- How the characters of a number are found: they have a point if one follows the first digits, and
what stands behind it begins no name. -/
theorem numberChars_cases (here : List Char) :
    (∃ decimals rest, numberChars here = (here.takeWhile isAsciiDigit, some decimals, rest) ∧
      (∀ c ∈ decimals, isAsciiDigit c) ∧ (∀ c ∈ rest.head?, isAsciiDigit c = false) ∧
      isDecimalPoint (decimals ++ rest)) ∨
    ∃ rest, numberChars here = (here.takeWhile isAsciiDigit, none, rest) ∧ EndsInteger rest := by
  unfold numberChars
  split
  · next rest found =>
    split
    · next point =>
      refine .inl ⟨_, _, rfl, fun c => ?_, head?_dropWhile _ rest, ?_⟩
      · exact List.all_eq_true.mp List.all_takeWhile c
      · rwa [List.takeWhile_append_dropWhile]
    · next point =>
      refine .inr ⟨_, rfl, ?_, ?_⟩
      · rw [← found]
        exact head?_dropWhile _ here
      · rintro more ⟨⟩
        exact Bool.eq_false_iff.mpr point
  · next point =>
    refine .inr ⟨_, rfl, head?_dropWhile _ here, fun more found => ?_⟩
    exact absurd found (point more)

theorem number_sound (negative : Bool) {here whole rest : List Char} {decimals : Option (List Char)}
    (begins : startsWithDigit here) (found : numberChars here = (whole, decimals, rest))
    (short : isOversized here = false) :
    IsToken (numberKind negative whole decimals)
      (signChars negative ++ numberSpelling whole decimals) ∧
    Piece.EndsBefore ⟨numberKind negative whole decimals,
      signChars negative ++ numberSpelling whole decimals⟩ rest := by
  have some : here.takeWhile isAsciiDigit ≠ [] := by
    cases here with
    | nil => cases begins
    | cons c rest => simp [show isAsciiDigit c from begins]
  have digits (c : Char) : c ∈ here.takeWhile isAsciiDigit → isAsciiDigit c :=
    List.all_eq_true.mp List.all_takeWhile c
  rw [isOversized, found] at short
  rcases numberChars_cases here with
    ⟨decimals, _, isNumber, all, stop, point⟩ | ⟨_, isNumber, ends⟩
  · cases found.symm.trans isNumber
    refine ⟨.float negative some (List.forall_mem_append.mpr ⟨digits, all⟩), stop, fun last => ?_⟩
    have none : decimals = [] := by
      refine Decidable.byContradiction fun nonempty => ?_
      have ended := List.getLast?_eq_some_getLast nonempty
      have point : decimals.getLast nonempty = '.' := by
        simpa [numberSpelling, List.getLast?_append, List.getLast?_cons, ended] using last
      rw [point] at ended
      exact absurd (all _ (List.mem_of_getLast? ended)) (by decide)
    rwa [none] at point
  · cases found.symm.trans isNumber
    exact ⟨.integer negative some digits (by simpa using short), ends⟩

/-- The first token of some characters is spelled by the grammar, and ends where it has to. -/
structure Lexeme.Lawful {here : List Char} (found : Lexeme here) : Prop where
  token : IsToken found.kind found.spelling
  ends : Piece.EndsBefore ⟨found.kind, found.spelling⟩ found.rest

theorem string_sound {rest : List Char} {found : Lexeme ('\'' :: rest)}
    (lexed : stringLexeme rest = .ok found) : found.Lawful := by
  unfold stringLexeme at lexed
  split at lexed
  · cases lexed
  · next text behind isText =>
    cases lexed
    exact ⟨.string (untilQuote_unquoted isText), trivial⟩

theorem parameter_sound {rest : List Char} {found : Lexeme ('@' :: rest)}
    (lexed : parameterLexeme rest = .ok found) : found.Lawful := by
  cases rest with
  | nil => cases lexed
  | cons c more =>
    simp only [parameterLexeme] at lexed
    split at lexed
    · next start =>
      cases lexed
      refine ⟨.parameter ?_, head?_dropWhile _ _⟩
      rw [List.takeWhile_cons_of_pos (isNameChar_of_isNameStart start)]
      exact isName_takeWhile start more
    · cases lexed

theorem word_sound {c : Char} (start : isNameStart c) (rest : List Char) :
    (nameLexeme c rest fun name => .ofWord (String.ofList (c :: name))).Lawful := by
  -- The projections are reduced first, since unification would open the list of the keywords.
  constructor <;> simp only [nameLexeme]
  · exact .word (isName_takeWhile start rest)
  · rw [endsBefore_ofWord]
    exact head?_dropWhile isNameChar rest

theorem symbol_sound {here : List Char} {some : here ≠ []} {found : Lexeme here}
    (lexed : symbolLexeme here some = .ok found) : found.Lawful := by
  unfold symbolLexeme at lexed
  split at lexed <;> cases lexed
  case h_5 noPair noBound =>
    refine ⟨.symbol (by decide), fun c first => ?_⟩
    obtain ⟨more, rfl⟩ := List.head?_eq_some_iff.mp first
    constructor
    · rintro rfl
      exact noPair more (List.cons_ne_nil _ _) HEq.rfl rfl
    · rintro rfl
      exact noBound more (List.cons_ne_nil _ _) HEq.rfl rfl
  case h_6 noBound =>
    refine ⟨.symbol (by decide), fun c first => ?_⟩
    obtain ⟨more, rfl⟩ := List.head?_eq_some_iff.mp first
    rintro rfl
    exact noBound more (List.cons_ne_nil _ _) HEq.rfl rfl
  all_goals exact ⟨.symbol (by decide), trivial⟩

/-- **What is read is spelled by the grammar**, and ends where it has to. -/
theorem lexeme_sound {c : Char} {rest : List Char} {found : Lexeme (c :: rest)}
    (lexed : lexeme c rest = .ok found) : found.Lawful := by
  by_cases quoted : c = '\''
  · subst quoted
    exact string_sound lexed
  rw [lexeme, dif_neg quoted] at lexed
  by_cases digit : isAsciiDigit c
  · rw [dif_pos digit] at lexed
    by_cases long : isOversized (c :: rest)
    · rw [if_pos long] at lexed
      cases lexed
    · rw [if_neg long] at lexed
      cases lexed
      have begins : startsWithDigit (c :: rest) := digit
      have sound := number_sound false begins rfl (Bool.eq_false_iff.mpr long)
      rw [signChars_false] at sound
      exact ⟨sound.1, sound.2⟩
  rw [dif_neg digit] at lexed
  by_cases minus : c = '-' ∧ startsWithDigit rest
  · obtain ⟨rfl, begins⟩ := minus
    rw [dif_pos ⟨rfl, begins⟩] at lexed
    by_cases long : isOversized rest
    · rw [if_pos long] at lexed
      cases lexed
    · rw [if_neg long] at lexed
      cases lexed
      have sound := number_sound true begins rfl (Bool.eq_false_iff.mpr long)
      rw [signChars_true] at sound
      exact ⟨sound.1, sound.2⟩
  rw [dif_neg minus] at lexed
  by_cases start : isNameStart c
  · rw [if_pos start] at lexed
    obtain rfl := Except.ok.inj lexed
    exact word_sound start rest
  rw [if_neg start] at lexed
  by_cases parameter : c = '@'
  · subst parameter
    exact parameter_sound lexed
  rw [dif_neg parameter] at lexed
  exact symbol_sound lexed

/-! ### What is spelled by the grammar is read -/

/-- A token of one or two characters that depends on the next one at most. -/
theorem reads_lexeme {behind : List Char → Prop} {kind : TokenKind} {c : Char} {more : List Char}
    (visible : isBlank c = false) (lexed : ∀ rest, behind rest →
      ∃ found, lexeme c (more ++ rest) = .ok found ∧ found.kind = kind ∧
        found.spelling = c :: more ∧ found.rest = rest) :
    Reads behind (c :: more) [⟨kind, c :: more⟩] := by
  intro rest holds
  obtain ⟨found, isFound, rfl, spelling, behind⟩ := lexed rest holds
  rw [List.cons_append, pieces?_lexeme visible isFound, spelling, behind]
  rfl

/-- A symbol that another one begins with is read if what follows does not complete that one. -/
theorem lexeme_less {rest : List Char} (ends : ∀ c ∈ rest.head?, c ≠ '>' ∧ c ≠ '=') :
    lexeme '<' rest = .ok (.single (.symbol .less "<") '<' rest) := by
  show symbolLexeme ('<' :: rest) _ = _
  refine symbolLexeme.eq_5 rest _ ?_ ?_
  · rintro more - - rfl
    exact (ends '>' rfl).1 rfl
  · rintro more - - rfl
    exact (ends '=' rfl).2 rfl

theorem lexeme_greater {rest : List Char} (ends : ∀ c ∈ rest.head?, c ≠ '=') :
    lexeme '>' rest = .ok (.single (.symbol .greater ">") '>' rest) := by
  show symbolLexeme ('>' :: rest) _ = _
  refine symbolLexeme.eq_6 rest _ ?_
  rintro more - - rfl
  exact ends '=' rfl rfl

theorem reads_listed {mark : Symbol} {spelling : String}
    (listed : (mark, spelling) ∈ symbolSpellings) :
    Reads (Piece.EndsBefore ⟨.symbol mark spelling, spelling.toList⟩) spelling.toList
      [⟨.symbol mark spelling, spelling.toList⟩] := by
  simp only [symbolSpellings, List.mem_cons, Prod.mk.injEq, List.not_mem_nil, or_false] at listed
  rcases listed with ⟨rfl, rfl⟩ | ⟨rfl, rfl⟩ | ⟨rfl, rfl⟩ | ⟨rfl, rfl⟩ | ⟨rfl, rfl⟩ | ⟨rfl, rfl⟩ |
    ⟨rfl, rfl⟩ | ⟨rfl, rfl⟩ | ⟨rfl, rfl⟩ | ⟨rfl, rfl⟩ | ⟨rfl, rfl⟩ | ⟨rfl, rfl⟩
  case inr.inr.inr.inr.inl =>
    exact reads_lexeme rfl fun rest ends => ⟨_, lexeme_less ends, rfl, rfl, rfl⟩
  case inr.inr.inr.inr.inr.inl =>
    exact reads_lexeme rfl fun rest ends => ⟨_, lexeme_greater ends, rfl, rfl, rfl⟩
  all_goals exact reads_lexeme rfl fun rest _ => ⟨_, rfl, rfl, rfl, rfl⟩

theorem IsToken.reads {kind : TokenKind} {spelling : List Char} (token : IsToken kind spelling) :
    Reads (Piece.EndsBefore ⟨kind, spelling⟩) spelling [⟨kind, spelling⟩] := by
  cases token with
  | string unquoted => exact (reads_string unquoted).weaken fun _ _ => trivial
  | @integer negative digits some all short =>
    intro rest ends
    have begins := startsWithDigit_of_all some all []
    rw [List.append_nil] at begins
    have found := numberChars_integer all ends
    exact pieces?_number negative begins found (by simpa [isOversized, found] using short)
  | @float negative whole decimals some all =>
    intro rest ends
    have begins := startsWithDigit_of_all some
      (fun c member => all c (List.mem_append_left _ member)) ('.' :: decimals)
    have point : isDecimalPoint (decimals ++ rest) := by
      cases decimals with
      | nil => exact ends.2 (by simp)
      | cons c more =>
        exact isDecimalPoint_digits (List.cons_ne_nil _ _)
          (fun c member => all c (List.mem_append_right _ member)) rest
    have found := numberChars_float all ends.1 point
    exact pieces?_number negative begins found (by rw [isOversized, found]; rfl)
  | word isName => exact (reads_name isName).weaken fun _ => endsBefore_ofWord.mp
  | parameter isName => exact (reads_parameter isName).weaken fun _ ends => ends
  | symbol listed => exact reads_listed listed

/-! ### What holds of every token -/

/-- What holds of every token that is read. -/
def Piece.WellSpelled (piece : Piece) : Prop :=
  match piece.kind with
  | .string text => '\'' ∉ text.toList
  | .integer value => value.natAbs < power 10 maxIntegerDigits
  | .float value => value ≠ .nan
  | .parameter name => IsName name.toList
  | .symbol .. => True
  | kind => IsName piece.spelling ∧ .ofWord (String.ofList piece.spelling) = kind

theorem wellSpelled_ofWord {cs : List Char} (name : IsName cs) :
    Piece.WellSpelled ⟨.ofWord (String.ofList cs), cs⟩ := by
  rcases ofWord_cases (String.ofList cs) with ⟨value, kind⟩ | kind | ⟨word, kind⟩ | kind <;>
  · rw [kind]
    exact ⟨name, kind⟩

/-- What is spelled by the grammar is well spelled. -/
theorem IsToken.wellSpelled {kind : TokenKind} {spelling : List Char}
    (token : IsToken kind spelling) : Piece.WellSpelled ⟨kind, spelling⟩ := by
  cases token with
  | @string text unquoted =>
    show '\'' ∉ (String.ofList text).toList
    rwa [String.toList_ofList]
  | @integer negative digits _ all short =>
    have bounded := Nat.lt_of_lt_of_le (asciiValue_lt all) (power_le_power (by decide) short)
    show (if negative then _ else _ : Int).natAbs < _
    split
    · rwa [Int.natAbs_neg]
    · exact bounded
  | float negative => exact Binary64.ofDecimal_ne_nan negative _
  | word isName => exact wellSpelled_ofWord isName
  | @parameter name isName =>
    show IsName (String.ofList name).toList
    rwa [String.toList_ofList]
  | symbol => trivial

theorem pieces?_wellSpelled {here : List Char} {pieces : List Piece}
    (found : pieces? here = some pieces) : ∀ piece ∈ pieces, piece.WellSpelled := by
  fun_induction pieces? here generalizing pieces with
  | case1 =>
    cases found
    exact fun _ member => absurd member List.not_mem_nil
  | case2 c rest blank ih => exact ih found
  | case3 c rest visible fault refused => cases found
  | case4 c rest visible lexed first ih =>
    obtain ⟨behind, isBehind, rfl⟩ := Option.map_eq_some_iff.mp found
    intro piece member
    rcases List.mem_cons.mp member with rfl | member
    · exact (lexeme_sound first).token.wellSpelled
    · exact ih isBehind piece member

end DocQuery
