/-
**Where a secret is found.**

* `smallLetter`: the letter that a character counts as where case is ignored. `splitWord?_eq_some`
  says which words are recognised;
* `Gap.Fills`: what fills a gap, and `Gap.stops`: a character with which no gap goes on;
* `Marker.Announces`, `Marker.Secret`: what stands in front of a secret, and the secret with what is
  behind it. `Marker.split?_eq_some` says that these are what is found at the beginning of a text;
* `Marker.redact_of_split?`, `Marker.redact_of_none`: what becomes of a text in both cases.
-/

import Mathlib.Data.List.Infix
import Mathlib.Data.List.TakeWhile
import DocQuery.Log.Redaction
import DocQuery.Proofs.Number.ReadBack

namespace DocQuery

/-! ### Letter case -/

/-- The small letter that a character counts as where case is ignored. Four characters outside the
alphabet count as letters. -/
def smallLetter (c : Char) : Char :=
  if c = 'İ' ∨ c = 'ı' then 'i'
  else if c = 'ſ' then 's'
  else if c.toNat = 0x212A then 'k'
  else c.toLower

theorem matchesLetter_iff {letter c : Char} (small : smallLetter letter = letter) :
    matchesLetter letter c ↔ smallLetter c = letter := by
  simp only [matchesLetter, Bool.or_eq_true, Bool.and_eq_true, beq_iff_eq]
  constructor
  · rintro ((((rfl | lower) | ⟨rfl, rfl | rfl⟩) | ⟨rfl, rfl⟩) | ⟨rfl, kelvin⟩)
    · exact small
    · rw [smallLetter]
      split
      · next special =>
        subst lower
        rcases special with rfl | rfl
        · exact absurd small (by decide)
        · exact absurd small (by decide)
      split
      · next special =>
        subst lower special
        exact absurd small (by decide)
      split
      · next special =>
        obtain rfl : c = Char.ofNat 0x212A := by rw [← special, Char.ofNat_toNat]
        subst lower
        exact absurd small (by decide)
      · exact lower
    · rfl
    · rfl
    · rfl
    · obtain rfl : c = Char.ofNat 0x212A := by rw [← kelvin, Char.ofNat_toNat]
      rfl
  · rintro rfl
    unfold smallLetter
    split
    · next special => exact .inl (.inl (.inr ⟨rfl, special⟩))
    split
    · next special => exact .inl (.inr ⟨rfl, special⟩)
    split
    · next special => exact .inr ⟨rfl, special⟩
    · exact .inl (.inl (.inl (.inr rfl)))

/-- A word is recognised in any case. -/
theorem splitWord?_eq_some {word text found rest : List Char}
    (small : ∀ letter ∈ word, smallLetter letter = letter) :
    splitWord? word text = some (found, rest) ↔
      text = found ++ rest ∧ found.map smallLetter = word := by
  induction word generalizing text found with
  | nil =>
    simp only [splitWord?, Option.some.injEq, Prod.mk.injEq, List.map_eq_nil_iff]
    constructor
    · rintro ⟨rfl, rfl⟩
      exact ⟨rfl, rfl⟩
    · rintro ⟨rfl, rfl⟩
      exact ⟨rfl, rfl⟩
  | cons letter word ih =>
    rw [List.forall_mem_cons] at small
    cases text with
    | nil =>
      simp only [splitWord?]
      constructor
      · rintro ⟨⟩
      · rintro ⟨empty, spelled⟩
        rw [(List.append_eq_nil_iff.mp empty.symm).1] at spelled
        cases spelled
    | cons c text =>
      rw [splitWord?, Option.ite_none_right_eq_some, matchesLetter_iff small.1]
      constructor
      · rintro ⟨same, split⟩
        obtain ⟨⟨found', rest'⟩, more, equal⟩ := Option.map_eq_some_iff.mp split
        obtain ⟨rfl, rfl⟩ := Prod.mk.inj equal
        obtain ⟨rfl, spelled⟩ := (ih small.2).mp more
        exact ⟨rfl, by rw [List.map_cons, same, spelled]⟩
      · rintro ⟨parts, spelled⟩
        obtain ⟨d, found', rfl, same, others⟩ := List.map_eq_cons_iff.mp spelled
        obtain ⟨rfl, rfl⟩ := List.cons.inj parts
        exact ⟨same, Option.map_eq_some_iff.mpr ⟨_, (ih small.2).mpr ⟨rfl, others⟩, rfl⟩⟩

/-! ### Gaps -/

/-- A character of which gaps consist. -/
def isJoint (c : Char) : Bool := isBlank c || isQuotationMark c || c == ':' || c == '='

namespace Gap

variable {gap : Gap} {text between rest : List Char}

/-- What fills a gap. -/
inductive Fills : Gap → List Char → Prop
  | empty : Fills .empty []
  | space {blanks : List Char} (some : blanks ≠ []) (all : ∀ c ∈ blanks, isBlank c) :
    Fills .space blanks
  | assignment {mark : Option Char} {blanks : List Char} {sign : Char} {blanks' : List Char}
    {mark' : Option Char} (isMark : ∀ c ∈ mark, isQuotationMark c) (all : ∀ c ∈ blanks, isBlank c)
    (isSign : sign = ':' ∨ sign = '=') (all' : ∀ c ∈ blanks', isBlank c)
    (isMark' : ∀ c ∈ mark', isQuotationMark c) :
    Fills .assignment (mark.toList ++ blanks ++ sign :: blanks' ++ mark'.toList)

/-- A character with which no gap goes on. -/
def stops : Gap → Char → Bool
  | .empty, _ => true
  | .space, c => !isBlank c
  | .assignment, c => !isBlank c && !isQuotationMark c

theorem splitBlanks_append {blanks : List Char} (all : ∀ c ∈ blanks, isBlank c)
    (stop : ∀ c ∈ rest.head?, isBlank c = false) : splitBlanks (blanks ++ rest) = (blanks, rest) :=
  let ⟨taken, left⟩ := takeWhile_append_stop all stop
  Prod.ext taken left

theorem splitMark_append {mark : Option Char} (isMark : ∀ c ∈ mark, isQuotationMark c)
    (stop : ∀ c ∈ rest.head?, isQuotationMark c = false) :
    splitMark (mark.toList ++ rest) = (mark.toList, rest) := by
  cases mark with
  | some c => exact if_pos (isMark c rfl)
  | none =>
    cases rest with
    | nil => rfl
    | cons c rest => exact if_neg (Bool.eq_false_iff.mp (stop c rfl))

theorem exists_splitMark (text : List Char) :
    ∃ (mark : Option Char) (rest : List Char), (∀ c ∈ mark, isQuotationMark c) ∧
      text = mark.toList ++ rest ∧ splitMark text = (mark.toList, rest) := by
  cases text with
  | nil => exact ⟨none, [], by simp, rfl, rfl⟩
  | cons c rest =>
    by_cases isMark : isQuotationMark c
    · exact ⟨some c, rest, by simpa using isMark, rfl, if_pos isMark⟩
    · exact ⟨none, c :: rest, by simp, rfl, if_neg isMark⟩

theorem exists_splitBlanks (text : List Char) :
    ∃ blanks rest, (∀ c ∈ blanks, isBlank c) ∧ text = blanks ++ rest ∧
      splitBlanks text = (blanks, rest) :=
  ⟨_, _, fun _ member => List.mem_takeWhile_imp member, List.takeWhile_append_dropWhile.symm, rfl⟩

theorem not_isBlank_of_isQuotationMark {c : Char} (mark : isQuotationMark c) :
    isBlank c = false := by
  simp only [isQuotationMark, Bool.or_eq_true, beq_iff_eq] at mark
  rcases mark with rfl | rfl
  · decide
  · decide

theorem not_isQuotationMark_of_isBlank {c : Char} (blank : isBlank c) :
    isQuotationMark c = false :=
  Bool.eq_false_iff.mpr fun mark => by
    rw [not_isBlank_of_isQuotationMark mark] at blank
    cases blank

/-- What fills a gap is found if the gap does not go on behind it. -/
theorem split?_of_fills (fills : gap.Fills between) (stop : ∀ c ∈ rest.head?, gap.stops c) :
    gap.split? (between ++ rest) = some (between, rest) := by
  cases fills with
  | empty => rfl
  | space some all =>
    have blanks := splitBlanks_append all fun c first => by simpa [stops] using stop c first
    simp only [split?, blanks]
    exact if_neg (by simpa using some)
  | @assignment mark blanks sign blanks' mark' isMark all isSign all' isMark' =>
    have ends (c : Char) (first : c ∈ rest.head?) :
        isBlank c = false ∧ isQuotationMark c = false := by simpa [stops] using stop c first
    have lastMark : splitMark (mark'.toList ++ rest) = (mark'.toList, rest) :=
      splitMark_append isMark' fun c first => (ends c first).2
    have lastBlanks : splitBlanks (blanks' ++ (mark'.toList ++ rest)) =
        (blanks', mark'.toList ++ rest) := by
      refine splitBlanks_append all' fun c first => ?_
      cases mark' with
      | some mark =>
        obtain rfl : mark = c := by simpa using first
        exact not_isBlank_of_isQuotationMark (isMark' _ rfl)
      | none => exact (ends c first).1
    have signEnds : isBlank sign = false ∧ isQuotationMark sign = false := by
      rcases isSign with rfl | rfl <;> decide
    have firstBlanks : splitBlanks (blanks ++ (sign :: (blanks' ++ (mark'.toList ++ rest)))) =
        (blanks, sign :: (blanks' ++ (mark'.toList ++ rest))) :=
      splitBlanks_append all fun c first => by
        obtain rfl : sign = c := by simpa using first
        exact signEnds.1
    have firstMark : splitMark (mark.toList ++ (blanks ++ (sign :: (blanks' ++
        (mark'.toList ++ rest))))) =
        (mark.toList, blanks ++ (sign :: (blanks' ++ (mark'.toList ++ rest)))) := by
      refine splitMark_append isMark fun c first => ?_
      cases blanks with
      | nil =>
        obtain rfl : sign = c := by simpa using first
        exact signEnds.2
      | cons blank blanks =>
        obtain rfl : blank = c := by simpa using first
        exact not_isQuotationMark_of_isBlank (all _ List.mem_cons_self)
    simp only [List.append_assoc, List.cons_append, split?, firstMark, firstBlanks, lastBlanks,
      lastMark, if_pos isSign]

/-- What is found fills the gap. -/
theorem fills_of_split? (found : gap.split? text = some (between, rest)) :
    text = between ++ rest ∧ gap.Fills between := by
  cases gap with
  | empty =>
    obtain ⟨rfl, rfl⟩ := Prod.mk.inj (Option.some.inj found)
    exact ⟨rfl, .empty⟩
  | space =>
    obtain ⟨blanks, behind, all, whole, split⟩ := exists_splitBlanks text
    simp only [split?, split] at found
    split at found
    · cases found
    · next some =>
      obtain ⟨rfl, rfl⟩ := Prod.mk.inj (Option.some.inj found)
      exact ⟨whole, .space (by simpa using some) all⟩
  | assignment =>
    obtain ⟨mark, behind, isMark, whole, firstMark⟩ := exists_splitMark text
    obtain ⟨blanks, behind', all, whole', firstBlanks⟩ := exists_splitBlanks behind
    subst whole whole'
    simp only [split?, firstMark, firstBlanks] at found
    split at found
    · next sign others =>
      split at found
      · next isSign =>
        obtain ⟨blanks', behind, all', whole, lastBlanks⟩ := exists_splitBlanks others
        obtain ⟨mark', behind', isMark', whole', lastMark⟩ := exists_splitMark behind
        subst whole whole'
        simp only [lastBlanks, lastMark] at found
        obtain ⟨rfl, rfl⟩ := Prod.mk.inj (Option.some.inj found)
        exact ⟨by simp, .assignment isMark all isSign all' isMark'⟩
      · cases found
    · cases found

/-- Gaps consist of blanks, quotation marks and signs. -/
theorem Fills.all_isJoint (fills : gap.Fills between) : ∀ c ∈ between, isJoint c := by
  have joint_of_mark {mark : Option Char} (isMark : ∀ c ∈ mark, isQuotationMark c) :
      ∀ c ∈ mark.toList, isJoint c := fun c member => by
    simp [isJoint, isMark c (by simpa using member)]
  have joint_of_blank {blanks : List Char} (all : ∀ c ∈ blanks, isBlank c) :
      ∀ c ∈ blanks, isJoint c := fun c member => by simp [isJoint, all c member]
  cases fills with
  | empty => exact List.forall_mem_nil _
  | space _ all => exact joint_of_blank all
  | assignment isMark all isSign all' isMark' =>
    simp only [List.append_assoc, List.cons_append, List.forall_mem_append, List.forall_mem_cons]
    exact ⟨joint_of_mark isMark, joint_of_blank all, by rcases isSign with rfl | rfl <;> decide,
      joint_of_blank all', joint_of_mark isMark'⟩

theorem Fills.eq_empty (fills : gap.Fills []) : gap = .empty := by
  generalize isEmpty : ([] : List Char) = between at fills
  cases fills with
  | empty => rfl
  | space some => exact absurd isEmpty.symm some
  | assignment => simp at isEmpty

end Gap

/-! ### Markers -/

namespace Marker

variable {marker : Marker} {text kept value rest : List Char}

/-- What stands in front of a secret: the word of the marker in any case, and a filled gap. -/
def Announces (marker : Marker) (kept : List Char) : Prop :=
  ∃ word between, kept = word ++ between ∧ word.map smallLetter = marker.word ∧
    marker.gap.Fills between

/-- A secret and what is behind it, which does not begin with a character of a secret. -/
structure Secret (marker : Marker) (value rest : List Char) : Prop where
  some : value ≠ []
  all : ∀ c ∈ value, marker.isSecret c
  ends : ∀ c ∈ rest.head?, marker.isSecret c = false

/-- A marker whose word is written in small letters and whose secrets, the mask among them, begin
where a gap has ended. -/
structure Regular (marker : Marker) : Prop where
  some : marker.word ≠ []
  small : ∀ letter ∈ marker.word, smallLetter letter = letter
  stops : ∀ c, marker.isSecret c → marker.gap.stops c
  mask : ∀ c ∈ mask, marker.isSecret c

theorem regular_of_mem (member : marker ∈ markers) : marker.Regular := by
  have words : ∀ marker ∈ markers, marker.word ≠ [] ∧
      marker.word.map smallLetter = marker.word.map id ∧ mask.all marker.isSecret := by decide
  obtain ⟨some, small, isSecret⟩ := words marker member
  refine ⟨some, List.map_inj_left.mp small, ?_, List.all_eq_true.mp isSecret⟩
  simp only [markers, List.mem_cons, List.not_mem_nil, or_false] at member
  rcases member with rfl | rfl | rfl | rfl
  · exact fun c _ => rfl
  · exact fun c secret => secret
  iterate 2
    · intro c secret
      simp only [isAssigned, Bool.and_eq_true] at secret
      simp [Gap.stops, secret.1.1.1, secret.1.1.2]

/-- **What is found at the beginning of a text**: what announces a secret, and the whole secret. -/
theorem split?_eq_some (regular : marker.Regular) :
    marker.split? text = some (kept, rest) ↔
      ∃ value, text = kept ++ (value ++ rest) ∧ marker.Announces kept ∧
        marker.Secret value rest := by
  constructor
  · intro found
    simp only [split?] at found
    split at found
    · cases found
    · next word behind isWord =>
      obtain ⟨rfl, spelled⟩ := (splitWord?_eq_some regular.small).mp isWord
      split at found
      · cases found
      · next between behind' isGap =>
        obtain ⟨rfl, fills⟩ := Gap.fills_of_split? isGap
        split at found
        · cases found
        · next some =>
          obtain ⟨rfl, rfl⟩ := Prod.mk.inj (Option.some.inj found)
          refine ⟨behind'.takeWhile marker.isSecret, ?_, ⟨word, between, rfl, spelled, fills⟩,
            by simpa using some, fun c member => List.mem_takeWhile_imp member, ?_⟩
          · rw [List.takeWhile_append_dropWhile, List.append_assoc]
          · intro c first
            have stop := List.head?_dropWhile_not marker.isSecret behind'
            rw [Option.mem_def.mp first] at stop
            exact stop
  · rintro ⟨value, rfl, ⟨word, between, rfl, spelled, fills⟩, secret⟩
    have isWord : splitWord? marker.word (word ++ (between ++ (value ++ rest))) =
        some (word, between ++ (value ++ rest)) :=
      (splitWord?_eq_some regular.small).mpr ⟨rfl, spelled⟩
    have isGap : marker.gap.split? (between ++ (value ++ rest)) =
        some (between, value ++ rest) := by
      refine Gap.split?_of_fills fills fun c first => regular.stops c ?_
      obtain ⟨d, others, rfl⟩ := List.exists_cons_of_ne_nil secret.some
      obtain rfl : d = c := by simpa using first
      exact secret.all _ List.mem_cons_self
    obtain ⟨taken, left⟩ := takeWhile_append_stop secret.all secret.ends
    simp only [split?, List.append_assoc, isWord, isGap, taken, left]
    exact if_neg (by simpa using secret.some)

/-- What announces a secret is not empty. -/
theorem Announces.ne_nil (regular : marker.Regular) (announced : marker.Announces kept) :
    kept ≠ [] := by
  obtain ⟨word, between, rfl, spelled, -⟩ := announced
  intro empty
  rw [(List.append_eq_nil_iff.mp empty).1] at spelled
  exact regular.some spelled.symm

/-! ### Masking -/

theorem redactAfter_eq (skipped : Nat) (text : List Char) :
    marker.redactAfter skipped text = marker.redact (text.drop skipped) := by
  induction text generalizing skipped with
  | nil => simp [redact, redactAfter]
  | cons c text ih =>
    cases skipped with
    | zero => rfl
    | succ skipped => exact ih skipped

/-- A secret at the beginning of a text is masked. -/
theorem redact_of_split? (regular : marker.Regular)
    (found : marker.split? text = some (kept, rest)) :
    marker.redact text = kept ++ mask ++ marker.redact rest := by
  obtain ⟨value, rfl, announced, -⟩ := (split?_eq_some regular).mp found
  obtain ⟨c, kept', rfl⟩ := List.exists_cons_of_ne_nil (announced.ne_nil regular)
  have behind : (kept' ++ (value ++ rest)).drop
      ((kept' ++ (value ++ rest)).length - rest.length) = rest := by
    rw [← List.append_assoc, List.length_append, Nat.add_sub_cancel]
    exact List.drop_left
  rw [List.cons_append] at found ⊢
  rw [redact, redactAfter, found]
  simp only [redactAfter_eq, behind]

/-- Where no secret begins, the next character stays. -/
theorem redact_of_none {c : Char} (none : marker.split? (c :: text) = .none) :
    marker.redact (c :: text) = c :: marker.redact text := by
  rw [redact, redactAfter, none]
  rfl

end Marker

end DocQuery
