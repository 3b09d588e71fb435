/-
**The white space of a query does not matter.**

White space ends every token, so that more of it changes none in front of it, with one exception: a
point behind a number, in front of a name, becomes a decimal point. No query has such a point.

* `Separates`: every token ends in front of these characters. By `Piece.EndsBefore.respaced` a token
  still ends there if what follows is cut off by them;
* `Laid.pieces?_replaced`: blanks between tokens may be replaced by other ones, if a name stands in
  front of each point;
* `gapStart`, `gapStop`: where the gap in front of a token lies, or the one at the end. By
  `Laid.outside_gap` and `Laid.gap_blank` no token lies in it, and it is blank;
* `Query.read_respaced`: a query is read as the same one with other blanks in one of its gaps.
-/

import DocQuery.Proofs.Query.Failure
import DocQuery.Proofs.Query.Move

namespace DocQuery

/-! ### Blanks -/

/-- No blank continues a name. -/
theorem isNameChar_of_isBlank {c : Char} (blank : isBlank c) : isNameChar c = false := by
  have noStart : isNameStart c = false := by
    by_contra start
    rw [isBlank_of_isNameStart (Bool.not_eq_false _ ▸ start)] at blank
    cases blank
  have noNumeral : ∀ code ∈ blankCodes, inRanges numeralRanges code = false := by decide +kernel
  simp only [isNameStart, Bool.or_eq_false_iff] at noStart
  simp [isNameChar, isAlphanumeric, noStart.1, noStart.2, noNumeral _ (mem_blankCodes blank)]

theorem isAsciiDigit_of_isBlank {c : Char} (blank : isBlank c) : isAsciiDigit c = false := by
  by_contra digit
  rw [isBlank_of_isAsciiDigit (Bool.not_eq_false _ ▸ digit)] at blank
  cases blank

/-- A blank is none of the characters that are not blank. -/
theorem ne_of_isBlank {c d : Char} (blank : isBlank c) (visible : isBlank d = false) : c ≠ d := by
  rintro rfl
  rw [visible] at blank
  cases blank

theorem pieces?_blanks {blanks : List Char} (blank : ∀ c ∈ blanks, isBlank c) (rest : List Char) :
    pieces? (blanks ++ rest) = pieces? rest := by
  induction blanks with
  | nil => rfl
  | cons c blanks ih =>
    obtain ⟨first, others⟩ := List.forall_mem_cons.mp blank
    rw [List.cons_append, pieces?_blank first, ih others]

/-! ### Tokens in front of blanks -/

/-- Every token ends in front of some characters. -/
def Separates (rest : List Char) : Prop := ∀ piece : Piece, piece.EndsBefore rest

/-- Every token ends in front of a character that continues no token. -/
theorem separates_cons {c : Char} (noName : isNameChar c = false) (noDigit : isAsciiDigit c = false)
    (noPoint : c ≠ '.') (noSign : c ≠ '>' ∧ c ≠ '=') (rest : List Char) :
    Separates (c :: rest) := by
  have noDigits : ∀ d ∈ (c :: rest).head?, isAsciiDigit d = false := by
    rintro _ ⟨⟩
    exact noDigit
  have endsName : EndsName (c :: rest) := by
    rintro _ ⟨⟩
    exact noName
  have noStart : isNameStart c = false := by
    by_contra start
    rw [isNameChar_of_isNameStart (Bool.not_eq_false _ ▸ start)] at noName
    cases noName
  rintro ⟨kind, spelling⟩
  cases kind with
  | string => trivial
  | integer =>
    refine ⟨noDigits, ?_⟩
    rintro more point
    exact absurd (List.cons.inj point).1 noPoint
  | float =>
    refine ⟨noDigits, fun _ => ?_⟩
    simp [isDecimalPoint, noStart]
  | symbol mark =>
    cases mark with
    | less =>
      rintro _ ⟨⟩
      exact noSign
    | greater =>
      rintro _ ⟨⟩
      exact noSign.2
    | _ => trivial
  | _ => exact endsName

/-- Every token ends in front of a blank. -/
theorem separates_blank {c : Char} (blank : isBlank c) (rest : List Char) : Separates (c :: rest) :=
  separates_cons (isNameChar_of_isBlank blank) (isAsciiDigit_of_isBlank blank)
    (ne_of_isBlank blank rfl) ⟨ne_of_isBlank blank rfl, ne_of_isBlank blank rfl⟩ rest

/-- A token still ends there if what follows is cut off by a separation, unless it is a number and
only a point is left behind it. -/
theorem Piece.EndsBefore.respaced {piece : Piece} {kept rest more : List Char}
    (ends : piece.EndsBefore (kept ++ rest)) (separates : Separates more)
    (noPoint : kept = ['.'] → ∀ value, piece.kind ≠ .integer value) :
    piece.EndsBefore (kept ++ more) := by
  rcases kept with _ | ⟨first, others⟩
  · exact separates piece
  obtain ⟨kind, spelling⟩ := piece
  cases kind with
  | integer value =>
    refine ⟨ends.1, fun behind point => ?_⟩
    obtain ⟨rfl, rfl⟩ := List.cons.inj point
    have separator := ends.2 _ rfl
    -- Two characters behind a number are looked at, so that the second one must be there still.
    rcases others with _ | ⟨second, others⟩
    · exact absurd rfl (noPoint rfl value)
    · exact separator
  | symbol mark => cases mark <;> exact ends
  | _ => exact ends

/-- Only a point begins with a point. -/
theorem IsToken.isSymbol_dot {kind : TokenKind} {spelling more : List Char}
    (token : IsToken kind spelling) (point : spelling = '.' :: more) :
    Grammar.IsSymbol .dot kind := by
  have number (negative : Bool) {digits rest : List Char} (some : digits ≠ [])
      (all : ∀ c ∈ digits, isAsciiDigit c) :
      signChars negative ++ (digits ++ rest) ≠ '.' :: more := by
    intro same
    obtain ⟨c, digits, rfl⟩ := List.exists_cons_of_ne_nil some
    have digit := all c List.mem_cons_self
    cases negative with
    | true => exact absurd (List.cons.inj same).1 (by decide)
    | false =>
      obtain rfl : c = '.' := (List.cons.inj same).1
      cases digit
  cases token with
  | string => exact absurd (List.cons.inj point).1 (by decide)
  | @integer negative digits some all =>
    rw [← List.append_nil digits] at point
    exact absurd point (number negative some all)
  | @float negative whole decimals some all =>
    exact absurd point
      (number negative some fun c member => all c (List.mem_append_left _ member))
  | word isName =>
    subst point
    exact absurd isName.1 (by decide)
  | parameter => exact absurd (List.cons.inj point).1 (by decide)
  | @symbol mark spelling listed =>
    have dots : ∀ entry ∈ symbolSpellings, entry.2.toList.head? = some '.' → entry.1 = .dot := by
      decide
    obtain rfl := dots _ listed (by rw [point]; rfl)
    exact ⟨spelling, rfl⟩

/-- The first token of characters that begin with a point is this point. -/
theorem Laid.exists_point {here : List Char} {start stop : Position} {tokens : List Token}
    (laid : Laid here start tokens stop) {rest : List Char} (point : here = '.' :: rest) :
    ∃ token ∈ tokens.head?, Grammar.IsSymbol .dot token.kind := by
  cases laid with
  | done => cases point
  | blank blank =>
    obtain ⟨rfl, -⟩ := List.cons.inj point
    cases blank
  | @token kind spelling _ _ _ _ token =>
    obtain ⟨c, more, rfl, -⟩ := token.visible
    obtain ⟨rfl, -⟩ := List.cons.inj point
    exact ⟨_, rfl, token.isSymbol_dot rfl⟩

/-! ### Other blanks between tokens -/

/-- The place behind a token. -/
def Token.stop (token : Token) : Nat := token.position.offset + token.length

/-- **Blanks between tokens may be replaced by other ones**, if a name stands in front of each
point. The induction is on the layout up to the blanks. -/
theorem Laid.pieces?_replaced {here : List Char} {start stop : Position} {tokens : List Token}
    (laid : Laid here start tokens stop)
    (names : tokens.IsChain fun token next =>
      Grammar.IsSymbol .dot next.kind → Grammar.IsSegment token.kind)
    {front gap back : List Char} (split : here = front ++ (gap ++ back))
    (isGap : ∀ c ∈ gap, isBlank c)
    (outside : ∀ token ∈ tokens, token.stop ≤ start.offset + front.length ∨
      start.offset + front.length + gap.length ≤ token.position.offset)
    {blanks : List Char} (some : blanks ≠ []) (blank : ∀ c ∈ blanks, isBlank c) :
    pieces? (front ++ (blanks ++ back)) = pieces? here := by
  by_cases first : front = []
  · subst first
    rw [split, List.nil_append, List.nil_append, pieces?_blanks blank, pieces?_blanks isGap]
  induction laid generalizing front with
  | done start => simp [first] at split
  | @blank c rest start stop tokens isBlank behind ih =>
    obtain ⟨_, front, rfl⟩ := List.exists_cons_of_ne_nil first
    obtain ⟨rfl, rfl⟩ := List.cons.inj split
    rw [List.cons_append, pieces?_blank isBlank, pieces?_blank isBlank]
    have next := start.after_offset [c]
    simp only [Position.after, List.foldl_cons, List.foldl_nil, List.length_singleton] at next
    by_cases last : front = []
    · subst last
      show pieces? (blanks ++ back) = pieces? (gap ++ back)
      rw [pieces?_blanks blank, pieces?_blanks isGap]
    · refine ih names rfl (fun token member => ?_) last
      have apart := outside token member
      rw [List.length_cons] at apart
      omega
  | @token kind spelling rest start stop tokens token ends behind ih =>
    have next := start.after_offset spelling
    obtain ⟨isFirst, others⟩ := List.forall_mem_cons.mp outside
    have nonempty := List.length_pos_iff.mpr first
    -- The token lies in front of the gap, since something does.
    have fits : spelling.length ≤ front.length := by
      simp only [Token.stop] at isFirst
      omega
    have isFront : front <+: spelling ++ rest := by
      rw [split]
      exact List.prefix_append front _
    obtain ⟨kept, rfl⟩ :=
      List.prefix_of_prefix_length_le (List.prefix_append spelling rest) isFront fits
    rw [List.append_assoc] at split ⊢
    obtain rfl := List.append_cancel_left split
    rw [List.isChain_cons] at names
    obtain ⟨c, blanks', rfl⟩ := List.exists_cons_of_ne_nil some
    have noPoint : kept = ['.'] → ∀ value, kind ≠ .integer value := by
      rintro rfl value rfl
      obtain ⟨point, isNext, dot⟩ := behind.exists_point rfl
      cases names.1 point isNext dot
    have ends' : Piece.EndsBefore ⟨kind, spelling⟩ (kept ++ c :: (blanks' ++ back)) :=
      ends.respaced (separates_blank (blank c List.mem_cons_self) _) noPoint
    rw [token.reads _ ends, List.cons_append, token.reads _ ends']
    refine congrArg _ ?_
    by_cases last : kept = []
    · subst last
      rw [List.nil_append, List.nil_append, ← List.cons_append, pieces?_blanks blank,
        pieces?_blanks isGap]
    · refine ih names.2 rfl (fun other member => ?_) last
      have apart := others other member
      rw [List.length_append] at apart
      omega

/-! ### Gaps -/

/-- Where the gap in front of the token with an index begins: behind the token before, or at the
beginning of the text. -/
def gapStart (tokens : List Token) (index : Nat) : Nat :=
  ((tokens.take index).getLast?.map Token.stop).getD 0

/-- Where the gap in front of the token with an index ends. Behind the last token there is one to
the end of the text. -/
def gapStop (text : List Char) (tokens : List Token) (index : Nat) : Nat :=
  (tokens[index]?.map fun token => token.position.offset).getD text.length

/-- What stands in the gap in front of the token with an index. -/
def gap (text : List Char) (tokens : List Token) (index : Nat) : List Char :=
  (text.take (gapStop text tokens index)).drop (gapStart tokens index)

/-- A text with other characters in the gap in front of the token with an index. -/
def respaced (text : List Char) (tokens : List Token) (index : Nat) (blanks : List Char) :
    List Char :=
  text.take (gapStart tokens index) ++ (blanks ++ text.drop (gapStop text tokens index))

namespace Laid

variable {text : List Char} {tokens : List Token} {stop : Position}

/-- The tokens in front of a gap lie there. -/
theorem stop_le_gapStart (laid : Laid text .origin tokens stop) (index : Nat) :
    ∀ token ∈ tokens.take index, token.stop ≤ gapStart tokens index := by
  have apart := laid.apart.sublist (List.take_sublist index tokens)
  rw [gapStart]
  obtain none | ⟨front, last, split⟩ := (tokens.take index).eq_nil_or_concat'
  · simp [none]
  · rw [split] at apart ⊢
    intro token member
    rw [List.getLast?_concat, Option.map_some, Option.getD_some]
    rcases List.mem_append.mp member with before | isLast
    · have behind := (List.pairwise_append.mp apart).2.2 token before last List.mem_cons_self
      simp only [Token.stop]
      omega
    · rw [List.mem_singleton.mp isLast]

/-- The tokens behind a gap lie there. -/
theorem gapStop_le_offset (laid : Laid text .origin tokens stop) (index : Nat) :
    ∀ token ∈ tokens.drop index, gapStop text tokens index ≤ token.position.offset := by
  have apart := laid.apart.sublist (List.drop_sublist index tokens)
  rw [gapStop, ← List.head?_drop]
  cases behind : tokens.drop index with
  | nil => simp
  | cons first more =>
    rw [behind] at apart
    refine List.forall_mem_cons.mpr ⟨le_rfl, fun token member => ?_⟩
    have next := (List.pairwise_cons.mp apart).1 token member
    simp only [List.head?_cons, Option.map_some, Option.getD_some]
    omega

/-- A gap lies within the text. -/
theorem gap_inside (laid : Laid text .origin tokens stop) (index : Nat) :
    gapStart tokens index ≤ gapStop text tokens index ∧
      gapStop text tokens index ≤ text.length := by
  have inside : ∀ token ∈ tokens, token.stop ≤ text.length := fun token member => by
    have within := (laid.within token member).2.2
    rwa [show Position.origin.offset = 0 from rfl, Nat.zero_add] at within
  have isStop : gapStop text tokens index ≤ text.length := by
    rw [gapStop]
    cases found : tokens[index]? with
    | none => exact le_rfl
    | some token =>
      have within := inside token (List.mem_of_getElem? found)
      simp only [Token.stop] at within
      simp only [Option.map_some, Option.getD_some]
      omega
  refine ⟨?_, isStop⟩
  rw [gapStart]
  cases last : (tokens.take index).getLast? with
  | none => exact Nat.zero_le _
  | some token =>
    have member := List.mem_of_getLast? last
    rw [Option.map_some, Option.getD_some, gapStop]
    cases found : tokens[index]? with
    | none => exact inside token (List.mem_of_mem_take member)
    | some next =>
      have apart := laid.apart
      rw [← List.take_append_drop index tokens] at apart
      exact (List.pairwise_append.mp apart).2.2 token member next
        (List.mem_of_mem_head? (by rw [List.head?_drop, found]; rfl))

/-- No token lies in a gap. -/
theorem outside_gap (laid : Laid text .origin tokens stop) (index : Nat) : ∀ token ∈ tokens,
    token.stop ≤ gapStart tokens index ∨ gapStop text tokens index ≤ token.position.offset := by
  intro token member
  rw [← List.take_append_drop index tokens, List.mem_append] at member
  rcases member with before | behind
  · exact .inl (laid.stop_le_gapStart index token before)
  · exact .inr (laid.gapStop_le_offset index token behind)

/-- A gap is blank. -/
theorem gap_blank (laid : Laid text .origin tokens stop) (index : Nat) :
    ∀ c ∈ gap text tokens index, isBlank c := by
  intro c member
  rw [gap] at member
  obtain ⟨place, inside, rfl⟩ := List.mem_iff_getElem.mp member
  rw [List.length_drop, List.length_take] at inside
  rw [List.getElem_drop, List.getElem_take]
  refine laid.blank_outside (List.getElem?_eq_getElem _) fun token member covers => ?_
  rw [show Position.origin.offset = 0 from rfl, Nat.zero_add] at covers
  have apart := laid.outside_gap index token member
  have covered := covers
  simp only [Token.Covers, Token.stop] at apart covered
  omega

/-- With its own blanks in the gap a text is as it was. -/
theorem respaced_gap (laid : Laid text .origin tokens stop) (index : Nat) :
    respaced text tokens index (gap text tokens index) = text := by
  have before : (text.take (gapStop text tokens index)).take (gapStart tokens index) =
      text.take (gapStart tokens index) := by
    rw [List.take_take, min_eq_left (laid.gap_inside index).1]
  rw [respaced, gap, ← List.append_assoc, ← before, List.take_append_drop, List.take_append_drop]

/-- Blanks in a gap may be replaced by other ones, if a name stands in front of each point. -/
theorem pieces?_respaced (laid : Laid text .origin tokens stop)
    (names : tokens.IsChain fun token next =>
      Grammar.IsSymbol .dot next.kind → Grammar.IsSegment token.kind)
    (index : Nat) {blanks : List Char} (some : blanks ≠ []) (blank : ∀ c ∈ blanks, isBlank c) :
    pieces? (respaced text tokens index blanks) = pieces? text := by
  obtain ⟨ordered, inside⟩ := laid.gap_inside index
  refine laid.pieces?_replaced names (laid.respaced_gap index).symm (laid.gap_blank index)
    (fun token member => ?_) some blank
  have apart := laid.outside_gap index token member
  have isStart : (text.take (gapStart tokens index)).length = gapStart tokens index := by
    rw [List.length_take, min_eq_left (ordered.trans inside)]
  have isGap : (gap text tokens index).length =
      gapStop text tokens index - gapStart tokens index := by
    rw [gap, List.length_drop, List.length_take, min_eq_left inside]
  rw [isStart, isGap, show Position.origin.offset = 0 from rfl]
  omega

end Laid

namespace Query

/-- A text with a query is not blank. -/
theorem read_eq_ok {text : String} {query : Query} :
    read text = .ok query ↔ readWith true text.toList = .ok query := by
  constructor
  · intro accepted
    rw [read] at accepted
    split at accepted
    · cases accepted
    · exact accepted
  · intro accepted
    obtain ⟨stop, phrase, scanned, -, -⟩ := readWith_eq_ok.mp accepted
    have visible : ¬ (trimBlanks text.toList).isEmpty := by
      intro empty
      have none := pieces?_blanks (all_blank_of_trimBlanks empty) []
      rw [List.append_nil, scan_pieces scanned, pieces?.eq_def] at none
      cases none
    rw [read, if_neg visible, accepted]

/-- **Other blanks in a gap do not matter.** If the gap in front of one of the tokens of a query,
or behind the last one, is filled with other blanks, at least one of them, then what is read is the
same query but for places. -/
theorem read_respaced {text : String} {query : Query} (accepted : read text = .ok query)
    {tokens : List Token} {stop : Position} (scanned : scan text.toList = .ok (tokens, stop))
    (index : Nat) {blanks : List Char} (some : blanks ≠ []) (blank : ∀ c ∈ blanks, isBlank c) :
    (∃ gap, respaced text.toList tokens index gap = text.toList ∧ ∀ c ∈ gap, isBlank c) ∧
      ∃ again, read (String.ofList (respaced text.toList tokens index blanks)) = .ok again ∧
        again.unplaced = query.unplaced := by
  have laid := scanFrom_iff_laid.mp scanned
  refine ⟨⟨_, laid.respaced_gap index, laid.gap_blank index⟩, ?_⟩
  rw [read_eq_ok] at accepted
  obtain ⟨stop', phrase, scanned', -, -⟩ := readWith_eq_ok.mp accepted
  obtain ⟨rfl, rfl⟩ := Prod.mk.inj (Except.ok.inj (scanned.symm.trans scanned'))
  have same := laid.pieces?_respaced phrase.carries.behind_names index some blank
  obtain ⟨again, isAgain, unplaced⟩ := readWith_of_pieces accepted same
  refine ⟨again, ?_, unplaced⟩
  rwa [read_eq_ok, String.toList_ofList]

/-- A line break in a path, where there were no blanks. -/
theorem read_respaced_path :
    ∃ query again, read "SELECT c.a.b FROM c" = .ok query ∧
      read "SELECT c.a\n.b FROM c" = .ok again ∧ again.unplaced = query.unplaced := by
  obtain ⟨query, accepted, -⟩ := exists_of_any
    (show (read "SELECT c.a.b FROM c").toOption.any (fun _ => true) by decide +kernel)
  obtain ⟨⟨tokens, stop⟩, scanned, place⟩ := exists_of_any
    (show (scan "SELECT c.a.b FROM c".toList).toOption.any (fun found =>
        String.ofList (respaced "SELECT c.a.b FROM c".toList found.1 4 ['\n']) ==
          "SELECT c.a\n.b FROM c") by
      decide +kernel)
  obtain ⟨-, again, isAgain, same⟩ := read_respaced accepted scanned 4
    (List.cons_ne_nil '\n' []) (List.forall_mem_singleton.mpr rfl)
  rw [eq_of_beq place] at isAgain
  exact ⟨query, again, accepted, isAgain, same⟩

end Query

end DocQuery
