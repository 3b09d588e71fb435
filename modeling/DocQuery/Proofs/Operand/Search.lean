/-
**Searches for a text in another one.**

Two functions of conditions look for a text: at the beginning of another one, or anywhere in it.
Without regard to case they compare folded texts, in which one character may have become several.

* `startsWith_iff`, `isInfix_iff`: the tests of characters are those for a prefix and for a block;
* `Search.Matches`: where a search looks for some characters in others. `Matches.flatMap` says that
  they are still there if every character is mapped to several ones;
* `Search.exists_call`: a call of a search has a verdict for all operands, and which one it is;
* `Search.orderedByStrength`: which searches hold if another one does, and that none holds of an
  absent operand.
-/

import DocQuery.Operand.Function
import Mathlib.Data.List.Infix

namespace DocQuery

/-! ### Characters -/

theorem startsWith_iff {text word : List Char} : startsWith text word ↔ word <+: text := by
  induction text generalizing word with
  | nil => cases word <;> simp [startsWith]
  | cons c text ih =>
    cases word with
    | nil => simp [startsWith]
    | cons d word =>
      rw [startsWith, Bool.and_eq_true, ih, beq_iff_eq, List.cons_prefix_cons, eq_comm]

theorem isInfix_iff {word text : List Char} : isInfix word text ↔ word <:+: text := by
  induction text with
  | nil => rw [isInfix, List.isEmpty_iff, List.infix_nil]
  | cons c text ih => rw [isInfix, Bool.or_eq_true, startsWith_iff, ih, List.infix_cons_iff]

/-- The characters of a text that are compared. They are folded if case is ignored. -/
def comparedChars (ignoring : Bool) (text : String) : List Char :=
  if ignoring then text.toList.flatMap foldChar else text.toList

/-! ### Operands -/

theorem toText?_eq_none {operand : Operand} : operand.toText? = none ↔ operand.isAbsent := by
  cases operand with
  | missing | instant _ | range _ _ => simp [Operand.toText?, Operand.isAbsent]
  | json value => cases value <;> simp [Operand.toText?, Operand.isAbsent]

theorem textTest_eq_true {test : List Char → List Char → Bool} {subject pattern : Operand}
    {flags : List Operand} :
    textTest test subject pattern flags ↔ ∃ text word, subject.toText? = some text ∧
      pattern.toText? = some word ∧
        test (comparedChars (ignoresCase flags) text) (comparedChars (ignoresCase flags) word) := by
  unfold textTest
  split
  · next text word isText isWord =>
    rw [isText, isWord]
    cases ignoresCase flags <;> simp [comparedChars, foldCase]
  · next none =>
    refine iff_of_false Bool.false_ne_true ?_
    rintro ⟨text, word, isText, isWord, -⟩
    exact none text word isText isWord

/-! ### Searches -/

/-- Where a text is looked for in another one. -/
inductive Search where
  | atStart
  | anywhere
deriving DecidableEq, Repr

namespace Search

/-- The function that searches. -/
def builtin : Search → Builtin
  | .atStart => .startsWith
  | .anywhere => .contains

/-- Calls the function that searches, under its name and with an optional flag. -/
def call (search : Search) (subject pattern : Operand) (flag : Option Operand) :
    Except EvaluationError Bool :=
  Registry.standard.call search.builtin.name (subject :: pattern :: flag.toList)

/-- A search finds an operand in another one. -/
def Holds (search : Search) (subject pattern : Operand) (flag : Option Operand) : Prop :=
  search.call subject pattern flag = .ok true

instance (search : Search) (subject pattern : Operand) (flag : Option Operand) :
    Decidable (search.Holds subject pattern flag) :=
  inferInstanceAs (Decidable (_ = _))

/-- Some characters stand in others where a search looks for them. -/
def Matches : Search → List Char → List Char → Prop
  | .atStart, word, text => word <+: text
  | .anywhere, word, text => word <:+: text

/-- The text of an operand stands in that of another one where a search looks for it. -/
def Occurs (search : Search) (ignoring : Bool) (subject pattern : Operand) : Prop :=
  ∃ text word, subject.toText? = some text ∧ pattern.toText? = some word ∧
    search.Matches (comparedChars ignoring word) (comparedChars ignoring text)

section

variable {search : Search} {word text : List Char}

theorem Matches.infix (found : search.Matches word text) : word <:+: text := by
  cases search with
  | atStart => exact List.IsPrefix.isInfix found
  | anywhere => exact found

/-- What is found is also found if every character is mapped to several ones. -/
theorem Matches.flatMap (found : search.Matches word text) (image : Char → List Char) :
    search.Matches (word.flatMap image) (text.flatMap image) := by
  cases search with
  | atStart => exact List.IsPrefix.flatMap found image
  | anywhere => exact List.IsInfix.flatMap found image

end

section

variable {search : Search} {ignoring : Bool} {subject pattern : Operand}

theorem Occurs.anywhere (occurs : search.Occurs ignoring subject pattern) :
    Search.anywhere.Occurs ignoring subject pattern := by
  obtain ⟨text, word, isText, isWord, found⟩ := occurs
  exact ⟨text, word, isText, isWord, found.infix⟩

/-- What is found is also found without regard to case. -/
theorem Occurs.folded (occurs : search.Occurs ignoring subject pattern) :
    search.Occurs true subject pattern := by
  cases ignoring with
  | true => exact occurs
  | false =>
    -- Folding maps each character on its own, so what stands around the found ones does not matter.
    obtain ⟨text, word, isText, isWord, found⟩ := occurs
    exact ⟨text, word, isText, isWord, found.flatMap foldChar⟩

/-- The operand in the middle has one text, whether it is looked for or looked in. -/
theorem Occurs.trans {middle : Operand} (outer : Search.anywhere.Occurs ignoring subject middle)
    (inner : Search.anywhere.Occurs ignoring middle pattern) :
    Search.anywhere.Occurs ignoring subject pattern := by
  obtain ⟨text, part, isText, isPart, found⟩ := outer
  obtain ⟨part', word, isPart', isWord, found'⟩ := inner
  cases isPart.symm.trans isPart'
  exact ⟨text, word, isText, isWord, List.IsInfix.trans found' found⟩

theorem Occurs.not_isAbsent (occurs : search.Occurs ignoring subject pattern) :
    ¬ (subject.isAbsent ∨ pattern.isAbsent) := by
  obtain ⟨text, word, isText, isWord, -⟩ := occurs
  rintro (absent | absent)
  · cases isText.symm.trans (toText?_eq_none.mpr absent)
  · cases isWord.symm.trans (toText?_eq_none.mpr absent)

end

/-! ### Calls -/

variable (search : Search) (subject pattern : Operand) (flag : Option Operand)

theorem lookup?_builtin :
    Registry.standard.lookup? search.builtin.name =
      some ⟨search.builtin.name, search.builtin, ⟨2, 3⟩⟩ := by
  cases search <;> decide +kernel

/-- A call of a search always has a verdict. -/
theorem exists_call : ∃ verdict, search.call subject pattern flag = .ok verdict ∧
    (verdict ↔ search.Occurs (ignoresCase flag.toList) subject pattern) := by
  have accepts : Arity.accepts ⟨2, 3⟩ (subject :: pattern :: flag.toList).length := by
    cases flag <;> rfl
  unfold call Registry.call
  rw [lookup?_builtin]
  simp only [accepts, if_true]
  cases search with
  | atStart =>
    refine ⟨_, rfl, ?_⟩
    rw [beginsWith, textTest_eq_true]
    simp only [startsWith_iff]
    rfl
  | anywhere =>
    refine ⟨_, rfl, ?_⟩
    rw [contains, textTest_eq_true]
    simp only [isInfix_iff]
    rfl

theorem holds_iff :
    search.Holds subject pattern flag ↔
      search.Occurs (ignoresCase flag.toList) subject pattern := by
  obtain ⟨verdict, called, isVerdict⟩ := search.exists_call subject pattern flag
  rw [← isVerdict, Holds, called, Except.ok.injEq]

theorem call_of_isAbsent (absent : subject.isAbsent ∨ pattern.isAbsent) :
    search.call subject pattern flag = .ok false := by
  obtain ⟨verdict, called, isVerdict⟩ := search.exists_call subject pattern flag
  have isFalse : verdict = false :=
    Bool.eq_false_iff.mpr fun holds => (isVerdict.mp holds).not_isAbsent absent
  rw [called, isFalse]

/-! ### Strength -/

/-- How the searches for an operand in another one go together, with the same flag and with
others. -/
structure OrderedByStrength (subject pattern : Operand) (flag : Option Operand) : Prop where
  /-- A search goes by the texts of the operands, and by the folded ones if the flag is true. -/
  decided : ∀ search : Search, ∃ verdict, search.call subject pattern flag = .ok verdict ∧
    (verdict ↔ search.Occurs (ignoresCase flag.toList) subject pattern)
  anywhere : Holds .atStart subject pattern flag → Holds .anywhere subject pattern flag
  /-- A search finds the most with a flag that is true. -/
  folded : ∀ (search : Search) (other : Operand), other.toBool? = some true →
    search.Holds subject pattern flag → search.Holds subject pattern (some other)
  transitive : ∀ part : Operand, Holds .anywhere subject pattern flag →
    Holds .anywhere pattern part flag → Holds .anywhere subject part flag
  absent : subject.isAbsent ∨ pattern.isAbsent →
    ∀ search : Search, search.call subject pattern flag = .ok false

/-- **The searches are ordered by strength**, for all operands and flags. What stands at the
beginning of a text stands in it, what is found is also found without regard to case, and what is
found in what is found is found. In an absent operand nothing is found, nor is an absent operand. -/
theorem orderedByStrength : OrderedByStrength subject pattern flag where
  decided search := search.exists_call subject pattern flag
  anywhere atStart := by
    rw [holds_iff] at atStart ⊢
    exact atStart.anywhere
  folded search other isTrue holds := by
    rw [holds_iff] at holds ⊢
    have ignored : ignoresCase (some other).toList = true := beq_iff_eq.mpr isTrue
    rw [ignored]
    exact holds.folded
  transitive part outer inner := by
    rw [holds_iff] at outer inner ⊢
    exact outer.trans inner
  absent isAbsent search := search.call_of_isAbsent subject pattern flag isAbsent

/-- A text of eight characters that is folded to nine. -/
def street : Operand := .json (.string "Straße 7")

/-- What is found by folded texts only, and inside of it a number. -/
theorem orderedByStrength_street :
    Holds .atStart street (.json (.string "Straß")) none ∧
    Operand.toBool? (.json (.string " True ")) = some true ∧
    Holds .atStart street (.json (.string "Straß")) (some (.json (.string " True "))) ∧
    Holds .anywhere street (.json (.string "SSE 7")) (some (.json (.bool true))) ∧
    Holds .anywhere street (.json (.int 7)) (some (.json (.bool true))) ∧
    ¬ Holds .anywhere street (.json (.string "SSE 7")) none ∧
    call .anywhere street .missing none = .ok false := by
  have atStart : Holds .atStart street (.json (.string "Straß")) none := by decide +kernel
  have outer : Holds .anywhere street (.json (.string "SSE 7")) (some (.json (.bool true))) := by
    decide +kernel
  have inner : Holds .anywhere (.json (.string "SSE 7")) (.json (.int 7))
      (some (.json (.bool true))) := by decide +kernel
  have isTrue : Operand.toBool? (.json (.string " True ")) = some true := by decide +kernel
  exact ⟨atStart, isTrue, (orderedByStrength street _ none).folded _ _ isTrue atStart, outer,
    (orderedByStrength street _ _).transitive _ outer inner, by decide +kernel,
    (orderedByStrength street .missing none).absent (.inr rfl) .anywhere⟩

end Search

end DocQuery
