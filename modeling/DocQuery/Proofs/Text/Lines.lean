/-
**Lines, and white space around them.**

* `all_blank_of_trimBlanks`: what is empty without the white space at its ends is white space;
* `linesOf_intercalate`: lines that hold no line end are found again;
* `exists_piece`: if one of the lines holds another line end, its part in front of the first one is
  found as a line.
-/

import Mathlib.Data.List.TakeWhile
import DocQuery.Text.Trim

namespace DocQuery

theorem all_blank_of_trimBlanks {cs : List Char} (empty : (trimBlanks cs).isEmpty) :
    ∀ c ∈ cs, isBlank c := by
  have none : (cs.dropWhile isBlank).reverse.dropWhile isBlank = [] := by
    rw [← List.reverse_eq_nil_iff]
    exact List.isEmpty_iff.mp empty
  have behind : ∀ c ∈ cs.dropWhile isBlank, isBlank c := fun c member =>
    List.dropWhile_eq_nil_iff.mp none c (List.mem_reverse.mpr member)
  rw [← @List.takeWhile_append_dropWhile _ isBlank cs]
  exact List.forall_mem_append.mpr
    ⟨fun c => List.all_eq_true.mp List.all_takeWhile c, behind⟩

theorem trim_not_isEmpty {cs : List Char} {c : Char} (member : c ∈ cs)
    (visible : isBlank c = false) : (trim (String.ofList cs)).isEmpty = false := by
  refine Bool.eq_false_iff.mpr fun empty => ?_
  have none : trimBlanks cs = [] := by simpa [trim] using empty
  have blank := all_blank_of_trimBlanks (by rw [none]; rfl) c member
  rw [visible] at blank
  cases blank

/-! ### Lines -/

/-- A line without line ends. -/
def Unbroken (line : List Char) : Prop := ∀ c ∈ line, isLineEnd c = false

variable {line rest : List Char} {lines : List (List Char)}

theorem linesOf_append {c : Char} (unbroken : Unbroken line) (isEnd : isLineEnd c)
    (single : c ≠ '\r') (rest : List Char) :
    linesOf (line ++ c :: rest) = line :: linesOf rest := by
  induction line with
  | nil =>
    rw [List.nil_append, linesOf, if_pos isEnd]
    exact fun _ same => absurd same single
  | cons d line ih =>
    obtain ⟨noEnd, others⟩ := List.forall_mem_cons.mp unbroken
    rw [List.cons_append, linesOf, if_neg (by simp [noEnd]), ih others]
    · rfl
    · rintro _ rfl
      cases noEnd

theorem linesOf_single (some : line ≠ []) (unbroken : Unbroken line) : linesOf line = [line] := by
  induction line with
  | nil => exact absurd rfl some
  | cons c line ih =>
    obtain ⟨noEnd, others⟩ := List.forall_mem_cons.mp unbroken
    rw [linesOf, if_neg (by simp [noEnd])]
    · cases line with
      | nil => rfl
      | cons d line => rw [ih (List.cons_ne_nil _ _) others, consLine]
    · rintro _ rfl
      cases noEnd

theorem linesOf_intercalate (each : ∀ line ∈ lines, line ≠ [] ∧ Unbroken line) :
    linesOf (['\n'].intercalate lines) = lines := by
  induction lines with
  | nil => rfl
  | cons line lines ih =>
    obtain ⟨⟨some, unbroken⟩, others⟩ := List.forall_mem_cons.mp each
    cases lines with
    | nil => rw [List.intercalate_singleton, linesOf_single some unbroken]
    | cons next lines =>
      rw [List.intercalate_cons_cons, List.append_assoc, List.singleton_append,
        linesOf_append unbroken (by decide) (by decide), ih others]

theorem exists_break (broken : ¬ Unbroken line) :
    ∃ piece c left, line = piece ++ c :: left ∧ Unbroken piece ∧ isLineEnd c := by
  induction line with
  | nil => exact absurd (List.forall_mem_nil _) broken
  | cons c line ih =>
    cases isEnd : isLineEnd c with
    | true => exact ⟨[], c, line, rfl, List.forall_mem_nil _, isEnd⟩
    | false =>
      obtain ⟨piece, d, left, rfl, unbroken, isEnd'⟩ := ih fun unbroken =>
        broken (List.forall_mem_cons.mpr ⟨isEnd, unbroken⟩)
      exact ⟨c :: piece, d, left, rfl, List.forall_mem_cons.mpr ⟨isEnd, unbroken⟩, isEnd'⟩

/-- The part of a line in front of its first line end is found as a line. -/
theorem exists_piece (single : ∀ line ∈ lines, '\r' ∉ line)
    (broken : ∃ line ∈ lines, ¬ Unbroken line) :
    ∃ line ∈ lines, ∃ piece c left, line = piece ++ c :: left ∧ isLineEnd c ∧
      piece ∈ linesOf (['\n'].intercalate lines) := by
  induction lines with
  | nil =>
    obtain ⟨_, member, -⟩ := broken
    cases member
  | cons line lines ih =>
    obtain ⟨noReturn, others⟩ := List.forall_mem_cons.mp single
    by_cases unbroken : Unbroken line
    · have further : ∃ line ∈ lines, ¬ Unbroken line := by
        obtain ⟨other, member, isBroken⟩ := broken
        rcases List.mem_cons.mp member with rfl | member
        · exact absurd unbroken isBroken
        · exact ⟨other, member, isBroken⟩
      obtain ⟨other, member, piece, c, left, whole, isEnd, found⟩ := ih others further
      refine ⟨other, List.mem_cons_of_mem _ member, piece, c, left, whole, isEnd, ?_⟩
      rw [List.intercalate_cons_of_ne_nil (List.ne_nil_of_mem member), List.append_assoc,
        List.singleton_append, linesOf_append unbroken (by decide) (by decide)]
      exact List.mem_cons_of_mem _ found
    · obtain ⟨piece, c, left, rfl, unbroken', isEnd⟩ := exists_break unbroken
      obtain ⟨behind, whole⟩ : ∃ behind, ['\n'].intercalate ((piece ++ c :: left) :: lines) =
          piece ++ c :: behind := by
        cases lines with
        | nil => exact ⟨left, List.intercalate_singleton⟩
        | cons next lines =>
          exact ⟨_, by
            rw [List.intercalate_cons_cons, List.append_assoc, List.append_assoc, List.cons_append]⟩
      have notReturn : c ≠ '\r' := by
        rintro rfl
        exact noReturn (List.mem_append_right _ List.mem_cons_self)
      refine ⟨_, List.mem_cons_self, piece, c, left, rfl, isEnd, ?_⟩
      rw [whole, linesOf_append unbroken' isEnd notReturn]
      exact List.mem_cons_self

end DocQuery
