/-
**Documents in lines and in an array.**

* `DocumentLine`: a JSON text of an object that stands in a line of its own;
* `readDocuments_array`: the objects of an array are read, with any space between its elements;
* `DocumentLine.isWhole`: a line holds none of the three line ends that may stand in a JSON string.
  No other one can be in it (`isLineEnd_eq`);
* `readDocuments_lines`: the objects of lines are read if each of them is whole, or if there is only
  one. Otherwise a line is torn, its part in front of a line end is no JSON text
  (`DocumentLine.parse?_piece`), and the file is refused;
* `readDocuments_alike`: but for that, lines and arrays are read alike.
-/

import Mathlib.Data.List.Forall2
import DocQuery.Proofs.Json.Extension
import DocQuery.Proofs.Text.Lines
import DocQuery.Shell.Input

namespace DocQuery

open JsonReader

/-- A JSON text of an object that stands in a line of its own. -/
structure DocumentLine where
  text : String
  fields : Fields
  isObject : Json.parse? text = some (.object fields)
  isLine : '\n' ∉ text.toList ∧ '\r' ∉ text.toList

namespace DocumentLine

variable (line : DocumentLine)

/-- The text begins with a brace, and there is nothing but space around the object. -/
theorem exists_valueAt : ∃ left rest, skipSpace line.text.toList = '\x7b' :: left ∧
    valueAt (some maxIntegerDigits) ('\x7b' :: left) = .ok (.object line.fields, rest) ∧
    ∀ c ∈ rest, isSpace c := by
  obtain ⟨rest, read, blank⟩ := Json.parse?_eq_some.mp line.isObject
  obtain ⟨left, starts⟩ := exists_brace read
  exact ⟨left, rest, starts, starts ▸ read, blank⟩

/-- In front of more the object is read as well. -/
theorem valueAt_append {more : List Char} (further : EndsNumber more) : ∃ rest,
    valueAt (some maxIntegerDigits) (skipSpace (line.text.toList ++ more)) =
      .ok (.object line.fields, rest ++ more) ∧ ∀ c ∈ rest, isSpace c := by
  obtain ⟨left, rest, starts, read, blank⟩ := line.exists_valueAt
  refine ⟨rest, ?_, blank⟩
  rw [skipSpace_append (by simp [starts]), starts]
  exact (JsonReader.valueAt_append (endsNumber_of_space blank) further read).2

theorem brace_mem : '\x7b' ∈ line.text.toList := by
  obtain ⟨left, -, starts, -⟩ := line.exists_valueAt
  have inside : '\x7b' ∈ skipSpace line.text.toList := starts ▸ List.mem_cons_self
  exact (List.dropWhile_suffix isSpace).mem inside

end DocumentLine

/-! ### Arrays -/

/-- A text with nothing but space around it. -/
def IsSpaced (text spaced : List Char) : Prop :=
  ∃ front back, spaced = front ++ (text ++ back) ∧ front.all isSpace ∧ back.all isSpace

/-- A file holds the texts of lines as the elements of an array, with any space between them. -/
def IsArrayOf (lines : List DocumentLine) (file : String) : Prop :=
  ∃ elements, List.Forall₂ (fun line => IsSpaced line.text.toList) lines elements ∧
    IsSpaced ('[' :: ([','].intercalate elements ++ [']'])) file.toList

theorem DocumentLine.valueAt_spaced {line : DocumentLine} {element : List Char}
    (spaced : IsSpaced line.text.toList element) {mark : Char} (isMark : mark = ',' ∨ mark = ']')
    (behind : List Char) : ∃ rest,
      valueAt (some maxIntegerDigits) (skipSpace (element ++ mark :: behind)) =
        .ok (.object line.fields, rest) ∧ skipSpace rest = mark :: behind := by
  obtain ⟨front, back, rfl, frontSpace, backSpace⟩ := spaced
  rw [List.all_eq_true] at frontSpace backSpace
  have found : skipSpace (back ++ mark :: behind) = mark :: behind := by
    rw [skipSpace_append_space backSpace]
    rcases isMark with rfl | rfl <;> rfl
  have ends : EndsNumber (back ++ mark :: behind) :=
    endsNumber_of_found found (isMark.imp_right .inl)
  obtain ⟨rest, read, blank⟩ := line.valueAt_append ends
  refine ⟨rest ++ (back ++ mark :: behind), ?_, ?_⟩
  · rw [List.append_assoc, skipSpace_append_space frontSpace, List.append_assoc]
    exact read
  · rw [skipSpace_append_space blank, found]

theorem itemsAt_elements {lines : List DocumentLine} {elements : List (List Char)}
    (some : lines ≠ [])
    (spaced : List.Forall₂ (fun line => IsSpaced line.text.toList) lines elements)
    (behind : List Char) :
    itemsAt (.some maxIntegerDigits) (skipSpace ([','].intercalate elements ++ ']' :: behind)) =
      .ok (lines.map fun line => .object line.fields, behind) := by
  induction spaced with
  | nil => exact absurd rfl some
  | @cons line element lines elements isSpaced others ih =>
    cases others with
    | nil =>
      obtain ⟨rest, read, found⟩ := DocumentLine.valueAt_spaced isSpaced (.inr rfl) behind
      rw [List.intercalate_singleton]
      exact itemsAt_eq_ok.mpr ⟨_, _, read, continued_closed found⟩
    | @cons _ next _ further _ _ =>
      obtain ⟨rest, read, found⟩ := DocumentLine.valueAt_spaced isSpaced (.inl rfl)
        ([','].intercalate (next :: further) ++ ']' :: behind)
      rw [List.intercalate_cons_cons, List.append_assoc, List.append_assoc, List.singleton_append]
      exact itemsAt_eq_ok.mpr ⟨_, _, read, (continued_eq_ok (by decide)).mpr
        (.inr ⟨_, _, found, ih (List.cons_ne_nil _ _), rfl⟩)⟩

theorem documentsOf?_objects (lines : List DocumentLine) :
    documentsOf? (.array (lines.map fun line => .object line.fields)) =
      some (lines.map DocumentLine.fields) := by
  show (lines.map fun line => Json.object line.fields).mapM Json.object? = _
  induction lines with
  | nil => rfl
  | cons line lines ih =>
    rw [List.map_cons, List.mapM_cons, ih]
    rfl

/-- **The objects of an array are read.** -/
theorem readDocuments_array {lines : List DocumentLine} {file : String} (some : lines ≠ [])
    (isArray : IsArrayOf lines file) :
    readDocuments file = .ok (lines.map DocumentLine.fields) := by
  obtain ⟨elements, spaced, front, back, whole, frontSpace, backSpace⟩ := isArray
  rw [List.all_eq_true] at frontSpace backSpace
  have items := itemsAt_elements some spaced back
  have isValue : Json.parse? file = .some (.array (lines.map fun line => .object line.fields)) := by
    refine Json.parse?_eq_some.mpr ⟨back, ?_, backSpace⟩
    rw [whole, skipSpace_append_space frontSpace, List.cons_append, List.append_assoc,
      List.singleton_append]
    refine (valueAt_array _).trans
      (enclosed_eq_ok.mpr (.inr ⟨fun left bracket => ?_, _, items, rfl⟩))
    rw [bracket] at items
    obtain ⟨_, _, read, -⟩ := itemsAt_eq_ok.mp items
    exact valueAt_bracket_refused left read
  rw [readDocuments, fileValue?, isValue]
  simp only [documentsOf?_objects]

/-! ### Lines -/

/-- A file holds lines with a line feed between them. -/
def linesText (lines : List DocumentLine) : String :=
  "\n".intercalate (lines.map DocumentLine.text)

/-- The line ends that may stand in a JSON string: the control character for the next line, and the
separators of lines and of paragraphs. -/
def isWideLineEnd (c : Char) : Bool := c = '\u0085' || c = '\u2028' || c = '\u2029'

theorem isWideLineEnd_iff {c : Char} :
    isWideLineEnd c ↔ c.toNat = 0x85 ∨ c.toNat = 0x2028 ∨ c.toNat = 0x2029 := by
  have code {d : Char} : c = d ↔ c.toNat = d.toNat :=
    ⟨congrArg Char.toNat, fun same => by rw [← Char.ofNat_toNat c, same, Char.ofNat_toNat]⟩
  simp only [isWideLineEnd, Bool.or_eq_true, decide_eq_true_eq, code, or_assoc]
  rfl

/-- Such a line end is no other character of the syntax of JSON. -/
theorem isWideLineEnd_apart {c : Char} (isEnd : isWideLineEnd c) (left : List Char) :
    isSpace c = false ∧ c ≠ '\x7b' ∧ EndsNumber (c :: left) := by
  simp only [isWideLineEnd, Bool.or_eq_true, decide_eq_true_eq, or_assoc] at isEnd
  have ends (apart : isAsciiDigit c = false ∧ c ≠ '.' ∧ c ≠ 'e' ∧ c ≠ 'E') :
      EndsNumber (c :: left) := by
    rintro _ ⟨⟩
    exact apart
  rcases isEnd with rfl | rfl | rfl <;> exact ⟨by decide, by decide, ends (by decide)⟩

namespace DocumentLine

variable (line : DocumentLine)

/-- Whether a line stays in one piece where the lines of a text are told apart. -/
def isWhole : Bool := line.text.toList.all fun c => !isWideLineEnd c

theorem isTextual {c : Char} (member : c ∈ line.text.toList) : IsTextual c := by
  obtain ⟨left, rest, starts, read, blank⟩ := line.exists_valueAt
  have noMore : EndsNumber [] := endsNumber_of_space (List.forall_mem_nil _)
  obtain ⟨passes, -⟩ := JsonReader.valueAt_append (endsNumber_of_space blank) noMore read
  obtain ⟨part, whole, textual⟩ := (passes_skipSpace line.text.toList).trans (starts ▸ passes)
  rw [whole] at member
  rcases List.mem_append.mp member with inside | inside
  · exact textual c inside
  · exact .inl (blank c inside)

/-- The line ends of a line are those that may stand in a string. -/
theorem isLineEnd_eq {c : Char} (member : c ∈ line.text.toList) :
    isLineEnd c = isWideLineEnd c := by
  rcases line.isTextual member with space | large
  · simp only [isSpace, Bool.or_eq_true, decide_eq_true_eq] at space
    rcases space with ((rfl | rfl) | rfl) | rfl
    · rfl
    · rfl
    · exact absurd member line.isLine.1
    · exact absurd member line.isLine.2
  · rw [Bool.eq_iff_iff, isWideLineEnd_iff]
    simp only [isLineEnd, Bool.or_eq_true, Bool.and_eq_true, decide_eq_true_eq, beq_iff_eq]
    omega

theorem unbroken_iff : Unbroken line.text.toList ↔ line.isWhole := by
  rw [isWhole, List.all_eq_true]
  refine forall₂_congr fun c member => ?_
  rw [line.isLineEnd_eq member, Bool.not_eq_true']

section

variable {line} {piece left : List Char} {c : Char}
  (whole : line.text.toList = piece ++ c :: left) (isEnd : isLineEnd c)

include whole isEnd

theorem isWideLineEnd_of_split : isWideLineEnd c := by
  rw [← line.isLineEnd_eq (whole ▸ List.mem_append_right _ List.mem_cons_self)]
  exact isEnd

/-- **A part of a line in front of a line end is no JSON text.** -/
theorem parse?_piece : Json.parse? (String.ofList piece) = none := by
  cases found : Json.parse? (String.ofList piece) with
  | none => rfl
  | some v =>
    exfalso
    obtain ⟨noSpace, -, ends⟩ := isWideLineEnd_apart (isWideLineEnd_of_split whole isEnd) left
    obtain ⟨rest, read, blank⟩ := Json.parse?_eq_some.mp found
    obtain ⟨start, rest', starts, isObject, blank'⟩ := line.exists_valueAt
    rw [String.toList_ofList] at read
    -- In front of the line end the same value would be read, and the object ends behind it.
    have longer := (JsonReader.valueAt_append (endsNumber_of_space blank) ends read).2
    rw [← skipSpace_append (ne_nil_of_unproved read), ← whole, starts, isObject] at longer
    cases longer
    have space := blank' c (List.mem_append_right _ List.mem_cons_self)
    rw [noSpace] at space
    cases space

/-- A part of a line in front of a line end holds the brace of the object. -/
theorem piece_not_blank : (trim (String.ofList piece)).isEmpty = false := by
  obtain ⟨noSpace, noBrace, -⟩ := isWideLineEnd_apart (isWideLineEnd_of_split whole isEnd) left
  obtain ⟨start, -, starts, -⟩ := line.exists_valueAt
  obtain ⟨space, all, split⟩ : ∃ space, (∀ d ∈ space, isSpace d) ∧
      line.text.toList = space ++ '\x7b' :: start :=
    ⟨line.text.toList.takeWhile isSpace, fun d member => List.mem_takeWhile_imp member, by
      rw [← starts]
      exact List.takeWhile_append_dropWhile.symm⟩
  have brace : '\x7b' ∈ piece := by
    rcases List.append_eq_append_iff.mp (whole.symm.trans split) with
      ⟨part, rfl, rest⟩ | ⟨part, rfl, rest⟩
    · cases part with
      | nil => exact absurd (List.cons_eq_cons.mp rest).1 noBrace
      | cons d part =>
        obtain ⟨rfl, -⟩ := List.cons_eq_cons.mp rest
        have isSpace := all c (List.mem_append_right _ List.mem_cons_self)
        rw [noSpace] at isSpace
        cases isSpace
    · cases part with
      | nil => exact absurd (List.cons_eq_cons.mp rest).1.symm noBrace
      | cons d part =>
        obtain ⟨rfl, -⟩ := List.cons_eq_cons.mp rest
        exact List.mem_append_right _ List.mem_cons_self
  exact trim_not_isEmpty brace (by decide)

end

end DocumentLine

theorem toList_linesText (lines : List DocumentLine) : (linesText lines).toList =
    ['\n'].intercalate (lines.map fun line => line.text.toList) := by
  rw [linesText, String.toList_intercalate, List.map_map]
  rfl

/-- Two lines or more are no JSON text as a whole. -/
theorem parse?_linesText (line next : DocumentLine) (lines : List DocumentLine) :
    Json.parse? (linesText (line :: next :: lines)) = none := by
  cases found : Json.parse? (linesText (line :: next :: lines)) with
  | none => rfl
  | some v =>
    exfalso
    obtain ⟨rest, read, blank⟩ := Json.parse?_eq_some.mp found
    have ends (more : List Char) : EndsNumber ('\n' :: more) := by
      rintro _ ⟨⟩
      decide
    obtain ⟨rest', isObject, -⟩ := line.valueAt_append
      (ends (['\n'].intercalate ((next :: lines).map fun line => line.text.toList)))
    rw [toList_linesText, List.map_cons, List.intercalate_cons_of_ne_nil (by simp),
      List.append_assoc, List.singleton_append, isObject] at read
    cases read
    -- The brace of the second object would be space behind the first one.
    have inside : '\x7b' ∈ ['\n'].intercalate
        ((next :: lines).map fun line => line.text.toList) := by
      rw [List.map_cons]
      cases lines with
      | nil =>
        rw [List.map_nil, List.intercalate_singleton]
        exact next.brace_mem
      | cons =>
        rw [List.map_cons, List.intercalate_cons_cons, List.append_assoc]
        exact List.mem_append_left _ next.brace_mem
    have space := blank _ (List.mem_append_right _ (List.mem_cons_of_mem _ inside))
    revert space
    decide

theorem mapM_parse? (lines : List DocumentLine) :
    (lines.map DocumentLine.text).mapM Json.parse? =
      some (lines.map fun line => .object line.fields) := by
  induction lines with
  | nil => rfl
  | cons line lines ih =>
    rw [List.map_cons, List.mapM_cons, line.isObject, ih]
    rfl

theorem mapM_eq_none {α β : Type} {f : α → Option β} {items : List α} {item : α}
    (member : item ∈ items) (refused : f item = none) : items.mapM f = none := by
  induction items with
  | nil => cases member
  | cons first items ih =>
    rw [List.mapM_cons]
    rcases List.mem_cons.mp member with rfl | member
    · rw [refused]
      rfl
    · rw [ih member]
      cases f first <;> rfl

/-- The values of lines that are whole are read. -/
theorem lineValues?_of_isWhole {lines : List DocumentLine} (whole : ∀ line ∈ lines, line.isWhole) :
    lineValues? (linesText lines) = some (lines.map fun line => .object line.fields) := by
  have found : splitLines (linesText lines) = lines.map DocumentLine.text := by
    rw [splitLines, toList_linesText, linesOf_intercalate]
    · simp
    · intro chars member
      obtain ⟨line, isLine, rfl⟩ := List.mem_map.mp member
      exact ⟨List.ne_nil_of_mem line.brace_mem, line.unbroken_iff.mpr (whole line isLine)⟩
  have kept : (lines.map DocumentLine.text).filter (fun line => !(trim line).isEmpty) =
      lines.map DocumentLine.text := by
    refine List.filter_eq_self.mpr fun text member => ?_
    obtain ⟨line, -, rfl⟩ := List.mem_map.mp member
    have visible := trim_not_isEmpty line.brace_mem (by decide)
    rw [String.ofList_toList] at visible
    rw [visible]
    rfl
  rw [lineValues?, found, kept, mapM_parse?]

/-- No values are read from lines of which one is not whole. -/
theorem lineValues?_of_not_isWhole {lines : List DocumentLine}
    (broken : ¬ ∀ line ∈ lines, line.isWhole) : lineValues? (linesText lines) = none := by
  obtain ⟨chars, member, piece, c, left, whole, isEnd, found⟩ :
      ∃ line ∈ lines.map (fun line => line.text.toList), ∃ piece c left,
        line = piece ++ c :: left ∧ isLineEnd c ∧ piece ∈ linesOf (linesText lines).toList := by
    rw [toList_linesText]
    refine exists_piece ?_ ?_
    · intro chars member inside
      obtain ⟨line, -, rfl⟩ := List.mem_map.mp member
      exact line.isLine.2 inside
    · simpa [DocumentLine.unbroken_iff] using broken
  obtain ⟨line, -, rfl⟩ := List.mem_map.mp member
  refine mapM_eq_none (List.mem_filter.mpr ⟨List.mem_map_of_mem found, ?_⟩)
    (line.parse?_piece whole isEnd)
  rw [line.piece_not_blank whole isEnd]
  rfl

/-- **The objects of lines are read** if each line is whole, or if there is only one. Otherwise the
file is refused. -/
theorem readDocuments_lines {lines : List DocumentLine} (some : lines ≠ []) :
    readDocuments (linesText lines) =
      if lines.length = 1 ∨ ∀ line ∈ lines, line.isWhole then .ok (lines.map DocumentLine.fields)
      else .error .dataUnreadable := by
  rcases lines with _ | ⟨line, _ | ⟨next, lines⟩⟩
  · exact absurd rfl some
  · rw [if_pos (.inl rfl), linesText, List.map_singleton]
    show readDocuments line.text = _
    rw [readDocuments, fileValue?, line.isObject]
    rfl
  · rw [readDocuments, fileValue?, parse?_linesText]
    by_cases whole : ∀ other ∈ line :: next :: lines, other.isWhole
    · rw [if_pos (.inr whole), lineValues?_of_isWhole whole]
      simp only [Option.map_some, documentsOf?_objects]
    · rw [if_neg (not_or.mpr ⟨by simp, whole⟩), lineValues?_of_not_isWhole whole]
      rfl

/-- **Lines and arrays are read alike**, but for lines that are torn at a line end in a string. -/
theorem readDocuments_alike {lines : List DocumentLine} {file : String} (some : lines ≠ [])
    (isArray : IsArrayOf lines file) :
    readDocuments file = .ok (lines.map DocumentLine.fields) ∧
      readDocuments (linesText lines) =
        if lines.length = 1 ∨ ∀ line ∈ lines, line.isWhole then readDocuments file
        else .error .dataUnreadable := by
  rw [readDocuments_array some isArray]
  exact ⟨rfl, readDocuments_lines some⟩

/-- A line with an identifier alone. -/
def DocumentLine.plain : DocumentLine where
  text := "\x7b\"id\": \"1\"\x7d"
  fields := [("id", .string "1")]
  isObject := by with_unfolding_all rfl
  isLine := by decide

/-- A line with a separator of lines in a string. -/
def DocumentLine.torn : DocumentLine where
  text := "\x7b\"id\": \"2\", \"x\": \"\u2028\"\x7d"
  fields := [("id", .string "2"), ("x", .string "\u2028")]
  isObject := by with_unfolding_all rfl
  isLine := by decide

/-- Two lines, and the array with space around it and its elements. -/
theorem readDocuments_alike_spaced :
    IsArrayOf [.plain, .plain] " [\n  \x7b\"id\": \"1\"\x7d,\n  \x7b\"id\": \"1\"\x7d\n]\n" ∧
      readDocuments (linesText [.plain, .plain]) =
        .ok [[("id", .string "1")], [("id", .string "1")]] := by
  have isArray : IsArrayOf [.plain, .plain]
      " [\n  \x7b\"id\": \"1\"\x7d,\n  \x7b\"id\": \"1\"\x7d\n]\n" := by
    refine ⟨["\n  \x7b\"id\": \"1\"\x7d".toList, "\n  \x7b\"id\": \"1\"\x7d\n".toList],
      .cons ⟨"\n  ".toList, [], by decide, by decide, by decide⟩
        (.cons ⟨"\n  ".toList, "\n".toList, by decide, by decide, by decide⟩ .nil),
      " ".toList, "\n".toList, by decide, by decide, by decide⟩
  obtain ⟨isRead, alike⟩ := readDocuments_alike (by decide) isArray
  refine ⟨isArray, ?_⟩
  rw [alike, if_pos (.inr (by decide)), isRead]
  rfl

/-- A separator of lines in a string tears its line. -/
theorem readDocuments_torn : ∃ lines file, lines ≠ [] ∧ IsArrayOf lines file ∧
    linesText lines = "\x7b\"id\": \"1\"\x7d\n\x7b\"id\": \"2\", \"x\": \"\u2028\"\x7d" ∧
    readDocuments (linesText lines) ≠ readDocuments file := by
  have isArray : IsArrayOf [.plain, .torn]
      "[\x7b\"id\": \"1\"\x7d,\x7b\"id\": \"2\", \"x\": \"\u2028\"\x7d]" :=
    ⟨[DocumentLine.plain.text.toList, DocumentLine.torn.text.toList],
      .cons ⟨[], [], by decide, rfl, rfl⟩ (.cons ⟨[], [], by decide, rfl, rfl⟩ .nil),
      [], [], by decide, rfl, rfl⟩
  have some : [DocumentLine.plain, .torn] ≠ [] := List.cons_ne_nil _ _
  refine ⟨_, _, some, isArray, by decide, ?_⟩
  rw [readDocuments_array some isArray, readDocuments_lines some, if_neg (by decide)]
  rintro ⟨⟩

end DocQuery
