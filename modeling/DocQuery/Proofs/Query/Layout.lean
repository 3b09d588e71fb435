/-
**Tokens lie in their text without loss.**

* `Laid`: the layout of some characters, which are tokens with blanks between them, each token
  spelled by the grammar and ending where it has to. `scanFrom_iff_laid` says that the scanner reads
  a layout, and whatever has one;
* `Laid.within`, `Laid.apart`, `Laid.blank_outside`, `Laid.spelled`: where the tokens of a layout
  lie, what lies outside of them, and how they are spelled;
* `scan_lossless`: the tokens of a text lie in it one behind the other, all that is outside of them
  is blank, and each of them is read again from its own characters.
-/

import DocQuery.Proofs.Except
import DocQuery.Proofs.Query.Place

namespace DocQuery

/-! ### Layouts -/

/-- Some characters, of which the first is at a position, are tokens with blanks between them. -/
inductive Laid : List Char → Position → List Token → Position → Prop
  | done (start : Position) : Laid [] start [] start
  | blank {c : Char} {rest : List Char} {start stop : Position} {tokens : List Token}
    (blank : isBlank c) (behind : Laid rest (start.next c) tokens stop) :
    Laid (c :: rest) start tokens stop
  | token {kind : TokenKind} {spelling rest : List Char} {start stop : Position}
    {tokens : List Token} (token : IsToken kind spelling)
    (ends : Piece.EndsBefore ⟨kind, spelling⟩ rest)
    (behind : Laid rest (start.after spelling) tokens stop) :
    Laid (spelling ++ rest) start (⟨kind, start, spelling.length⟩ :: tokens) stop

theorem laid_of_scanFrom {here : List Char} {start stop : Position} {tokens : List Token}
    (found : scanFrom here start = .ok (tokens, stop)) : Laid here start tokens stop := by
  fun_induction scanFrom here start generalizing tokens with
  | case1 start =>
    cases found
    exact .done _
  | case2 start c rest blank ih => exact .blank blank (ih found)
  | case3 => cases found
  | case4 => cases found
  | case5 start c rest visible first lexed tokens' stop' isRest ih =>
    cases found
    obtain ⟨token, ends⟩ := lexeme_sound lexed
    have laid := Laid.token token ends (ih isRest)
    rwa [first.complete] at laid

/-- A token begins with a character that is not blank. -/
theorem IsToken.visible {kind : TokenKind} {spelling : List Char} (token : IsToken kind spelling) :
    ∃ c more, spelling = c :: more ∧ isBlank c = false := by
  have number (negative : Bool) {digits : List Char} (rest : List Char) (some : digits ≠ [])
      (all : ∀ c ∈ digits, isAsciiDigit c) :
      ∃ c more, signChars negative ++ (digits ++ rest) = c :: more ∧ isBlank c = false := by
    cases negative with
    | true => exact ⟨'-', digits ++ rest, rfl, rfl⟩
    | false =>
      obtain ⟨c, more, rfl⟩ := List.exists_cons_of_ne_nil some
      exact ⟨c, more ++ rest, rfl, isBlank_of_isAsciiDigit (all c List.mem_cons_self)⟩
  cases token with
  | @string text _ => exact ⟨'\'', text ++ ['\''], rfl, rfl⟩
  | @integer negative digits some all _ =>
    rw [← List.append_nil digits]
    exact number negative [] some all
  | @float negative whole decimals some all =>
    exact number negative ('.' :: decimals) some
      fun c member => all c (List.mem_append_left _ member)
  | word isName =>
    cases spelling with
    | nil => exact isName.elim
    | cons c more => exact ⟨c, more, rfl, isBlank_of_isNameStart isName.1⟩
  | @parameter name _ => exact ⟨'@', name, rfl, rfl⟩
  | @symbol mark spelling listed =>
    have visible : ∀ entry ∈ symbolSpellings,
        entry.2.toList.head?.any fun c => isBlank c = false := by
      decide
    obtain ⟨c, first, visible⟩ := (Option.any_eq_true _ _).mp (visible _ listed)
    obtain ⟨more, split⟩ := List.head?_eq_some_iff.mp first
    exact ⟨c, more, split, of_decide_eq_true visible⟩

/-- A token is read first if it ends in front of characters that can be read. -/
theorem IsToken.lexeme {kind : TokenKind} {c : Char} {more rest : List Char} {pieces : List Piece}
    (token : IsToken kind (c :: more)) (visible : isBlank c = false)
    (ends : Piece.EndsBefore ⟨kind, c :: more⟩ rest) (isRest : pieces? rest = some pieces) :
    ∃ found, DocQuery.lexeme c (more ++ rest) = .ok found ∧ found.kind = kind ∧
      found.spelling = c :: more ∧ found.rest = rest := by
  have reads := token.reads rest ends
  rw [isRest, Option.map_some, List.cons_append] at reads
  cases lexed : DocQuery.lexeme c (more ++ rest) with
  | error fault =>
    rw [pieces?_fault visible lexed] at reads
    cases reads
  | ok found =>
    rw [pieces?_lexeme visible lexed] at reads
    obtain ⟨others, -, same⟩ := Option.map_eq_some_iff.mp reads
    obtain ⟨same, -⟩ := List.cons.inj same
    obtain ⟨isKind, isSpelling⟩ := Piece.mk.inj same
    refine ⟨found, rfl, isKind, isSpelling, ?_⟩
    have complete := found.complete
    rw [isSpelling] at complete
    exact List.append_cancel_left complete

theorem exists_pieces {here : List Char} {start stop : Position} {tokens : List Token}
    (found : scanFrom here start = .ok (tokens, stop)) : ∃ pieces, pieces? here = some pieces := by
  have placed : start.offset = (List.replicate start.offset ' ').length := by simp
  exact ⟨_, (pieces?_eq _ here start placed).trans (congrArg _ (congrArg _ found))⟩

/-- What has a layout is read. -/
theorem Laid.scanFrom {here : List Char} {start stop : Position} {tokens : List Token}
    (laid : Laid here start tokens stop) : scanFrom here start = .ok (tokens, stop) := by
  induction laid with
  | done start => rw [scanFrom.eq_def]
  | blank blank _ ih =>
    rw [scanFrom.eq_def]
    exact (if_pos blank).trans ih
  | @token kind spelling rest start stop tokens token ends _ ih =>
    obtain ⟨c, more, rfl, visible⟩ := token.visible
    obtain ⟨pieces, isRest⟩ := exists_pieces ih
    obtain ⟨found, lexed, rfl, isSpelling, isRest⟩ := token.lexeme visible ends isRest
    rw [List.cons_append, scanFrom.eq_def]
    simp only [visible, lexed, isSpelling, isRest, ih]
    rfl

/-- **The scanner reads a layout**, and whatever has one. -/
theorem scanFrom_iff_laid {here : List Char} {start stop : Position} {tokens : List Token} :
    DocQuery.scanFrom here start = .ok (tokens, stop) ↔ Laid here start tokens stop :=
  ⟨laid_of_scanFrom, Laid.scanFrom⟩

/-- A token is read from its own characters. -/
theorem IsToken.scan {kind : TokenKind} {spelling : List Char} (token : IsToken kind spelling) :
    DocQuery.scan spelling =
      .ok ([⟨kind, .origin, spelling.length⟩], Position.origin.after spelling) := by
  have laid := Laid.token token (endsBefore_nil _) (.done (Position.origin.after spelling))
  rw [List.append_nil] at laid
  exact scanFrom_iff_laid.mpr laid

/-! ### Where tokens lie -/

/-- A token lies over a place in the text. -/
def Token.Covers (token : Token) (place : Nat) : Prop :=
  token.position.offset ≤ place ∧ place < token.position.offset + token.length

namespace Laid

variable {here : List Char} {start stop : Position} {tokens : List Token}

/-- The tokens are not empty, and lie within the characters. -/
theorem within (laid : Laid here start tokens stop) : ∀ token ∈ tokens,
    start.offset ≤ token.position.offset ∧ 0 < token.length ∧
      token.position.offset + token.length ≤ start.offset + here.length := by
  induction laid with
  | done start => exact fun _ member => absurd member List.not_mem_nil
  | @blank c rest start _ _ _ _ ih =>
    intro token member
    have next := start.after_offset [c]
    have inside := ih token member
    simp only [Position.after, List.foldl_cons, List.foldl_nil, List.length_singleton] at next
    rw [List.length_cons]
    omega
  | @token kind spelling rest start stop tokens token ends _ ih =>
    have next := start.after_offset spelling
    refine List.forall_mem_cons.mpr ⟨?_, fun other member => ?_⟩
    · obtain ⟨c, more, rfl, -⟩ := token.visible
      simp only [List.length_append, List.length_cons]
      omega
    · have inside := ih other member
      rw [List.length_append]
      omega

/-- Each token lies in front of the ones behind it. -/
theorem apart (laid : Laid here start tokens stop) : tokens.Pairwise fun token next =>
    token.position.offset + token.length ≤ next.position.offset := by
  induction laid with
  | done start => exact .nil
  | blank _ _ ih => exact ih
  | @token kind spelling rest start stop tokens token ends behind ih =>
    refine .cons (fun next member => ?_) ih
    rw [← start.after_offset spelling]
    exact (behind.within next member).1

/-- No two tokens stand at one position. -/
theorem distinct (laid : Laid here start tokens stop) :
    tokens.Pairwise fun token next => token.position ≠ next.position := by
  refine laid.apart.imp_of_mem fun {token next} member _ apart same => ?_
  have visible := laid.within token member
  rw [same] at apart
  omega

/-- No token occurs twice. -/
theorem nodup_tokens (laid : Laid here start tokens stop) : tokens.Nodup :=
  laid.distinct.imp fun apart same => apart (congrArg Token.position same)

/-- What lies outside of the tokens is blank. -/
theorem blank_outside (laid : Laid here start tokens stop) {place : Nat} {c : Char}
    (isHere : here[place]? = some c)
    (outside : ∀ token ∈ tokens, ¬ token.Covers (start.offset + place)) : isBlank c := by
  induction laid generalizing place with
  | done start => cases isHere
  | @blank d rest start _ _ blank _ ih =>
    cases place with
    | zero =>
      cases isHere
      exact blank
    | succ place =>
      have next := start.after_offset [d]
      simp only [Position.after, List.foldl_cons, List.foldl_nil, List.length_singleton] at next
      refine ih isHere fun token member => ?_
      rw [next, Nat.add_assoc, Nat.add_comm 1]
      exact outside token member
  | @token kind spelling rest start stop tokens token ends _ ih =>
    obtain ⟨first, others⟩ := List.forall_mem_cons.mp outside
    by_cases covered : place < spelling.length
    · exact absurd ⟨Nat.le_add_right _ _, Nat.add_lt_add_left covered _⟩ first
    · rw [List.getElem?_append_right (Nat.not_lt.mp covered)] at isHere
      refine ih isHere fun other member => ?_
      rw [start.after_offset, Nat.add_assoc, Nat.add_sub_cancel' (Nat.not_lt.mp covered)]
      exact others other member

/-- Each token stands behind a beginning of the characters, and is spelled there. -/
theorem spelled (laid : Laid here start tokens stop) : ∀ token ∈ tokens,
    ∃ before spelling behind, here = before ++ (spelling ++ behind) ∧
      token.position = start.after before ∧ token.length = spelling.length ∧
      IsToken token.kind spelling := by
  induction laid with
  | done start => exact fun _ member => absurd member List.not_mem_nil
  | @blank c rest start _ _ _ _ ih =>
    intro token member
    obtain ⟨before, spelling, behind, rfl, place⟩ := ih token member
    exact ⟨c :: before, spelling, behind, rfl, place⟩
  | @token kind spelling rest start stop tokens token ends _ ih =>
    refine List.forall_mem_cons.mpr ⟨⟨[], spelling, rest, rfl, rfl, rfl, token⟩, ?_⟩
    intro other member
    obtain ⟨before, spelling', behind, rfl, place, isToken⟩ := ih other member
    refine ⟨spelling ++ before, spelling', behind, (List.append_assoc _ _ _).symm, ?_, isToken⟩
    rw [place, Position.after_append]

/-- The layout ends behind the last character. -/
theorem stop_eq (laid : Laid here start tokens stop) : stop = start.after here := by
  induction laid with
  | done start => rfl
  | blank _ _ ih => exact ih
  | token _ _ _ ih => rw [ih, Position.after_append]

end Laid

/-! ### The tokens of a text -/

/-- Tokens, and an end, lie in a text without loss. -/
structure Lossless (text : List Char) (tokens : List Token) (stop : Position) : Prop where
  nonempty : ∀ token ∈ tokens, 0 < token.length
  inside : ∀ token ∈ tokens, token.position.offset + token.length ≤ text.length
  apart : tokens.Pairwise fun token next =>
    token.position.offset + token.length ≤ next.position.offset
  blank : ∀ place c, text[place]? = some c → (∀ token ∈ tokens, ¬ token.Covers place) → isBlank c
  placed : ∀ token ∈ tokens, token.position.IsBehind (text.take token.position.offset)
  ended : stop.IsBehind text
  /-- Each token is read from its own characters, and no other is. -/
  alone : ∀ token ∈ tokens, scan (token.piece text).spelling =
    .ok ([⟨token.kind, .origin, token.length⟩], Position.origin.after (token.piece text).spelling)

/-- **The tokens of a text lie in it without loss**: one behind the other, and not empty. All that
is outside of them is blank. Their positions, and that of the end, count the lines and the
characters in front of them, and each of them is the one token of its own characters. -/
theorem scan_lossless {text : List Char} {tokens : List Token} {stop : Position}
    (found : scan text = .ok (tokens, stop)) : Lossless text tokens stop := by
  have laid := scanFrom_iff_laid.mp found
  constructor
  · exact fun token member => (laid.within token member).2.1
  · intro token member
    have inside := (laid.within token member).2.2
    rwa [show Position.origin.offset = 0 from rfl, Nat.zero_add] at inside
  · exact laid.apart
  · intro place c isHere outside
    refine laid.blank_outside isHere fun token member => ?_
    rw [show Position.origin.offset = 0 from rfl, Nat.zero_add]
    exact outside token member
  · intro token member
    obtain ⟨before, spelling, behind, rfl, place, -⟩ := laid.spelled token member
    have counted := Position.isBehind_after before
    rw [place, counted.offset, List.take_left]
    exact counted
  · rw [laid.stop_eq]
    exact Position.isBehind_after text
  · intro token member
    obtain ⟨before, spelling, behind, rfl, place, length, isToken⟩ := laid.spelled token member
    have own : (token.piece (before ++ (spelling ++ behind))).spelling = spelling := by
      rw [Token.piece, place, (Position.isBehind_after before).offset, List.drop_left, length,
        List.take_left]
    rw [own, length]
    exact isToken.scan

/-- A text in two lines, and a point that is no decimal point. -/
theorem scan_lossless_twoLines : ∃ tokens stop,
    scan "x <> 'one\ntwo' and 1.x".toList = .ok (tokens, stop) ∧
      Lossless "x <> 'one\ntwo' and 1.x".toList tokens stop := by
  obtain ⟨⟨tokens, stop⟩, found, -⟩ := exists_of_any
    (show (scan "x <> 'one\ntwo' and 1.x".toList).toOption.any (fun found => found.1.length == 7) by
      decide +kernel)
  exact ⟨tokens, stop, found, scan_lossless found⟩

end DocQuery
