/-
**Masked texts stay as they are.**

A text is settled for a marker if what stands behind the marker is always the mask.

* `Announces.eq_of_suffix`, `split?_inside`, `split?_mask`: what announces two different kinds of
  secrets does not end at the same place, and no secret is announced from inside of what announces
  another one, or from inside of the mask;
* `Fragment`, `Marker.Cuts`: a text cut into characters that stay and secrets. `exists_cuts` says
  that masking shows the first and masks the second;
* `Marker.settled_redact`: masking settles a text for its marker, and keeps it settled for others;
* `redactText_once`: a text with all secrets masked is settled for every marker, and masking it
  again, as every handler of a record does, changes nothing.
-/

import DocQuery.Log.Record
import DocQuery.Proofs.Log.Redaction

namespace DocQuery

/-! ### Words of markers -/

theorem smallLetter_of_isJoint {c : Char} (joint : isJoint c) : smallLetter c = c := by
  have code : ¬ (65 ≤ c.toNat ∧ c.toNat ≤ 90) ∧ c.toNat ≠ 0x130 ∧ c.toNat ≠ 0x131 ∧
      c.toNat ≠ 0x17F ∧ c.toNat ≠ 0x212A := by
    simp only [isJoint, isBlank, isQuotationMark, Bool.or_eq_true, Bool.and_eq_true,
      decide_eq_true_eq, beq_iff_eq] at joint
    rcases joint with ((blank | rfl | rfl) | rfl) | rfl
    · omega
    all_goals decide
  have noCapital : ¬ (c.val ≥ 'A'.val ∧ c.val ≤ 'Z'.val) := fun between =>
    code.1 ⟨between.1, between.2⟩
  have noLower : c.toLower = c := dif_neg noCapital
  rw [smallLetter, noLower, if_neg, if_neg, if_neg code.2.2.2.2]
  · rintro rfl
    exact code.2.2.2.1 rfl
  · rintro (rfl | rfl)
    · exact code.2.1 rfl
    · exact code.2.2.1 rfl

/-- A text without the blanks, quotation marks and signs at its end. -/
def stem (text : List Char) : List Char := dropWhileEnd isJoint text

theorem stem_append {text joints : List Char} (all : ∀ c ∈ joints, isJoint c) :
    stem (text ++ joints) = stem text := by
  rw [stem, dropWhileEnd, List.reverse_append,
    List.dropWhile_append_of_pos fun c member => all c (List.mem_reverse.mp member)]
  rfl

theorem exists_stem (text : List Char) :
    ∃ joints, text = stem text ++ joints ∧ ∀ c ∈ joints, isJoint c := by
  refine ⟨(text.reverse.takeWhile isJoint).reverse, ?_, fun c member => ?_⟩
  · rw [stem, dropWhileEnd, ← List.reverse_append, List.takeWhile_append_dropWhile,
      List.reverse_reverse]
  · exact List.mem_takeWhile_imp (List.mem_reverse.mp member)

theorem stem_suffix {part text : List Char} (isEnd : part <:+ text) (some : stem part ≠ []) :
    stem part <:+ stem text := by
  obtain ⟨front, rfl⟩ := isEnd
  have nonempty : (part.reverse.dropWhile isJoint).isEmpty = false := by
    simpa [stem, dropWhileEnd] using some
  refine ⟨front, ?_⟩
  rw [stem, stem, dropWhileEnd, dropWhileEnd, List.reverse_append, List.dropWhile_append,
    nonempty]
  simp

/-- An end of a text is an end of its second part, or else it begins with an end of the first part,
which is one of its beginnings as well where the text in front of more begins with it. -/
theorem border_of_suffix {first second part more : List Char} (isEnd : part <:+ first ++ second)
    (shorter : part.length < (first ++ second).length) (isStart : first <+: part ++ more) :
    part <:+ second ∨ ∃ border, border.length < first.length ∧ border <:+ first ∧
      border <+: first ∧ part = border ++ second := by
  rcases List.suffix_or_suffix_of_suffix isEnd (List.suffix_append _ _) with short | ⟨border, rfl⟩
  · exact .inl short
  · obtain ⟨front, split⟩ := isEnd
    rw [← List.append_assoc, List.append_left_inj] at split
    rw [List.length_append, List.length_append, Nat.add_lt_add_iff_right] at shorter
    refine .inr ⟨border, shorter, ⟨front, split⟩, ?_, rfl⟩
    rw [List.append_assoc] at isStart
    exact List.prefix_of_prefix_length_le (List.prefix_append _ _) isStart shorter.le

namespace Marker

variable {marker other : Marker} {kept kept' part more : List Char}

theorem Announces.exists_joints (announced : marker.Announces kept) :
    ∃ joints, kept.map smallLetter = marker.word ++ joints ∧ ∀ c ∈ joints, isJoint c := by
  obtain ⟨word, between, rfl, spelled, fills⟩ := announced
  refine ⟨between, ?_, fills.all_isJoint⟩
  rw [List.map_append, spelled, List.map_congr_left fun c member =>
    smallLetter_of_isJoint (fills.all_isJoint c member), List.map_id']

theorem Announces.stem_eq (announced : marker.Announces kept) :
    stem (kept.map smallLetter) = stem marker.word := by
  obtain ⟨joints, whole, all⟩ := announced.exists_joints
  rw [whole, stem_append all]

theorem stem_ne_nil (member : marker ∈ markers) : stem marker.word ≠ [] := by
  have all : ∀ marker ∈ markers, stem marker.word ≠ [] := by decide
  exact all marker member

/-- **What announces secrets of two kinds does not end at the same place.** -/
theorem Announces.eq_of_suffix (member : marker ∈ markers) (member' : other ∈ markers)
    (announced : marker.Announces kept) (announced' : other.Announces kept')
    (isEnd : kept <:+ kept') : marker = other := by
  have isEnd : stem marker.word <:+ stem other.word := by
    rw [← announced.stem_eq, ← announced'.stem_eq]
    exact stem_suffix (isEnd.map _) (announced.stem_eq ▸ stem_ne_nil member)
  have apart : markers.Pairwise fun marker other =>
      ¬ stem marker.word <:+ stem other.word ∧ ¬ stem other.word <:+ stem marker.word := by decide
  have same : ∀ ⦃marker⦄, marker ∈ markers → ∀ ⦃other⦄, other ∈ markers →
      stem marker.word <:+ stem other.word → marker = other :=
    List.Pairwise.forall_of_forall_of_flip (fun _ _ _ => rfl)
      (apart.imp fun noEnd isEnd => absurd isEnd noEnd.1)
      (apart.imp fun noEnd isEnd => absurd isEnd noEnd.2)
  exact same member member' isEnd

/-- The first letter of a word is a letter, and the word without the sign at its end does not end as
it begins. -/
theorem stem_facts (member : marker ∈ markers) :
    (∀ c ∈ marker.word.head?, isJoint c = false) ∧
      ∀ part, part <:+ stem marker.word → part <+: stem marker.word →
        part = [] ∨ part = stem marker.word := by
  have all : ∀ marker ∈ markers, marker.word.head?.all (fun c => !isJoint c) ∧
      ∀ part ∈ (stem marker.word).tails, part <+: stem marker.word →
        part = [] ∨ part = stem marker.word := by decide
  obtain ⟨letter, noBorder⟩ := all marker member
  refine ⟨fun c first => ?_, fun part isEnd => noBorder part ((List.mem_tails _ _).mpr isEnd)⟩
  rwa [Option.mem_def.mp first, Option.all_some, Bool.not_eq_true'] at letter

theorem Announces.word_prefix (announced : marker.Announces kept) :
    marker.word <+: kept.map smallLetter := by
  obtain ⟨joints, whole, -⟩ := announced.exists_joints
  exact ⟨joints, whole.symm⟩

/-- What is found at the beginning of a text begins with the word of the marker. -/
theorem word_prefix_of_split? {text : List Char} {parts : List Char × List Char}
    (member : marker ∈ markers) (found : marker.split? text = some parts) :
    marker.word <+: text.map smallLetter := by
  obtain ⟨value, rfl, announced, -⟩ := (split?_eq_some (regular_of_mem member)).mp found
  rw [List.map_append]
  exact announced.word_prefix.trans (List.prefix_append _ _)

/-- A part that is not empty, and at which a secret is found in front of more, does not consist of
joints: it begins with a letter. -/
theorem not_joints_of_split? {parts : List Char × List Char} (member : marker ∈ markers)
    (found : marker.split? (part ++ more) = some parts) (some : part ≠ []) :
    ¬ ∀ c ∈ part.map smallLetter, isJoint c := by
  intro allJoints
  obtain ⟨c, others, rfl⟩ := List.exists_cons_of_ne_nil some
  obtain ⟨letter, word, isFirst⟩ := List.exists_cons_of_ne_nil (regular_of_mem member).some
  have isWord := word_prefix_of_split? member found
  rw [isFirst, List.cons_append, List.map_cons, List.cons_prefix_cons] at isWord
  have noLetter := (stem_facts member).1 letter (by rw [isFirst]; rfl)
  rw [isWord.1, allJoints _ List.mem_cons_self] at noLetter
  cases noLetter

/-- **No secret is announced from inside of what announces another one.** -/
theorem split?_inside (member : marker ∈ markers) (announced : marker.Announces kept)
    (isEnd : part <:+ kept) (proper : part ≠ kept) (some : part ≠ []) :
    marker.split? (part ++ more) = none := by
  cases found : marker.split? (part ++ more) with
  | none => rfl
  | some parts =>
    exfalso
    have noJoints := not_joints_of_split? member found some
    obtain ⟨joints, whole, all⟩ := announced.exists_joints
    obtain ⟨sign, word, isSign⟩ := exists_stem marker.word
    rw [word, List.append_assoc] at whole
    have allJoints : ∀ c ∈ sign ++ joints, isJoint c := List.forall_mem_append.mpr ⟨isSign, all⟩
    have isStem : stem marker.word <+: part.map smallLetter ++ more.map smallLetter := by
      rw [← List.map_append]
      exact .trans ⟨sign, word.symm⟩ (word_prefix_of_split? member found)
    have shorter : (part.map smallLetter).length < (kept.map smallLetter).length := by
      rw [List.length_map, List.length_map]
      exact Nat.lt_of_le_of_ne isEnd.length_le fun same => proper (isEnd.eq_of_length same)
    rcases border_of_suffix (whole ▸ isEnd.map smallLetter) (whole ▸ shorter) isStem with
      inJoints | ⟨border, fewer, isEnd, isStart, split⟩
    · exact noJoints fun c inside => allJoints c (inJoints.mem inside)
    · rcases (stem_facts member).2 border isEnd isStart with rfl | rfl
      · exact noJoints fun c inside => allJoints c (by rwa [split] at inside)
      · exact Nat.lt_irrefl _ fewer

/-- **No secret is announced from inside of the mask.** -/
theorem split?_mask (member : marker ∈ markers) (isEnd : part <:+ mask) (some : part ≠ []) :
    marker.split? (part ++ more) = none := by
  have all : ∀ marker ∈ markers, ∀ part ∈ mask.tails, part ≠ [] →
      ¬ marker.word <+: part.map smallLetter ∧ ¬ part.map smallLetter <+: marker.word := by decide
  have apart := all marker member part ((List.mem_tails _ _).mpr isEnd) some
  cases found : marker.split? (part ++ more) with
  | none => rfl
  | some parts =>
    have isWord := word_prefix_of_split? member found
    rw [List.map_append] at isWord
    rcases List.prefix_or_prefix_of_prefix isWord (List.prefix_append _ _) with start | start
    · exact absurd start apart.1
    · exact absurd start apart.2

/-- What announces a secret holds no star. -/
theorem Announces.ne_star (member : marker ∈ markers) (announced : marker.Announces kept) :
    ∀ c ∈ kept, c ≠ '*' := by
  rintro _ star rfl
  have all : ∀ marker ∈ markers, '*' ∉ marker.word := by decide
  obtain ⟨joints, whole, isJoint⟩ := announced.exists_joints
  have inside : '*' ∈ kept.map smallLetter := List.mem_map_of_mem (f := smallLetter) star
  rw [whole] at inside
  rcases List.mem_append.mp inside with inside | inside
  · exact all marker member inside
  · exact absurd (isJoint _ inside) (by decide)

/-- What announces a secret ends with a blank, a quotation mark or a sign, and so with no character
of the mask. -/
theorem Announces.not_mem_mask {c : Char} (member : marker ∈ markers)
    (announced : marker.Announces kept) (isLast : [c] <:+ kept) : c ∉ mask := by
  have noJoint : mask.all fun c => !isJoint c && !isJoint (smallLetter c) := by decide
  have signed : ∀ marker ∈ markers, marker.gap = .empty → marker.word.getLast?.all isJoint := by
    decide
  obtain ⟨word, between, rfl, spelled, fills⟩ := announced
  intro inside
  have joint : isJoint c ∨ isJoint (smallLetter c) := by
    by_cases empty : between = []
    · subst empty
      obtain ⟨front, last⟩ := isLast
      have isEnd : marker.word.getLast? = some (smallLetter c) :=
        List.getLast?_eq_some_iff.mpr ⟨front.map smallLetter, by
          rw [← spelled, ← List.append_nil word, ← last, List.map_append]
          rfl⟩
      have isSign := signed marker member fills.eq_empty
      rw [isEnd, Option.all_some] at isSign
      exact .inr isSign
    · have inGap : [c] <:+ between := List.suffix_of_suffix_length_le isLast
        (List.suffix_append _ _) (List.length_pos_of_ne_nil empty)
      exact .inl (fills.all_isJoint c (inGap.mem List.mem_cons_self))
  have noJoint := List.all_eq_true.mp noJoint c inside
  rcases joint with joint | joint <;> simp [joint] at noJoint

end Marker

/-! ### Texts cut into pieces -/

/-- A part of a text: a character that stays, or a secret. -/
inductive Fragment where
  | plain (c : Char)
  | secret (value : List Char)

namespace Fragment

/-- The characters of a fragment. -/
def given : Fragment → List Char
  | .plain c => [c]
  | .secret value => value

/-- What is left of a fragment when secrets are masked. -/
def shown : Fragment → List Char
  | .plain c => [c]
  | .secret _ => mask

end Fragment

/-- The text that fragments make up. -/
def givenText (fragments : List Fragment) : List Char := fragments.flatMap Fragment.given

/-- The text that is left when secrets are masked. -/
def shownText (fragments : List Fragment) : List Char := fragments.flatMap Fragment.shown

/-- Characters that stay. -/
def plainText (text : List Char) : List Fragment := text.map .plain

/-- The first fragment is no secret. -/
def StartsPlain (fragments : List Fragment) : Prop :=
  ∀ value, fragments.head? ≠ some (.secret value)

section

variable {text : List Char} {fragments : List Fragment}

@[simp] theorem givenText_append (more : List Fragment) :
    givenText (fragments ++ more) = givenText fragments ++ givenText more := List.flatMap_append

@[simp] theorem shownText_append (more : List Fragment) :
    shownText (fragments ++ more) = shownText fragments ++ shownText more := List.flatMap_append

@[simp] theorem givenText_plainText : givenText (plainText text) = text := by
  simp [givenText, plainText, List.flatMap_map, Fragment.given]

@[simp] theorem shownText_plainText : shownText (plainText text) = text := by
  simp [shownText, plainText, List.flatMap_map, Fragment.shown]

/-- A fragment at the beginning that is no secret shows as it is. -/
theorem head?_shownText (plain : StartsPlain fragments) :
    (shownText fragments).head? = (givenText fragments).head? := by
  cases fragments with
  | nil => rfl
  | cons first others =>
    cases first with
    | plain c => rfl
    | secret value => exact absurd rfl (plain value)

/-- What shows without a star are characters that stay. -/
theorem exists_plainText {more : List Char} (noStar : ∀ c ∈ text, c ≠ '*')
    (shows : shownText fragments = text ++ more) :
    ∃ others, fragments = plainText text ++ others ∧ shownText others = more := by
  induction text generalizing fragments with
  | nil => exact ⟨fragments, rfl, shows⟩
  | cons c text ih =>
    obtain ⟨isPlain, others⟩ := List.forall_mem_cons.mp noStar
    cases fragments with
    | nil => cases shows
    | cons first fragments =>
      cases first with
      | plain d =>
        obtain ⟨rfl, behind⟩ : d = c ∧ shownText fragments = text ++ more := List.cons.inj shows
        obtain ⟨rest, rfl, showsRest⟩ := ih others behind
        exact ⟨rest, rfl, showsRest⟩
      | secret value => exact absurd (List.cons.inj shows).1.symm isPlain

/-- An end of what shows begins with a fragment or inside of a mask. -/
theorem suffix_shownText {here : List Char} (isEnd : here <:+ shownText fragments) :
    (∃ others, others <:+ fragments ∧ shownText others = here) ∨
      ∃ part more, part <:+ mask ∧ part ≠ [] ∧ here = part ++ more := by
  induction fragments with
  | nil =>
    obtain rfl := List.suffix_nil.mp isEnd
    exact .inl ⟨[], List.suffix_rfl, rfl⟩
  | cons first fragments ih =>
    have further {others : List Fragment} (isEnd : others <:+ fragments) :
        others <:+ first :: fragments := isEnd.trans (List.suffix_cons _ _)
    obtain ⟨front, whole⟩ := isEnd
    have whole : front ++ here = first.shown ++ shownText fragments := whole
    rcases List.append_eq_append_iff.mp whole with ⟨part, isFirst, rfl⟩ | ⟨front', -, rest⟩
    · by_cases empty : part = []
      · exact .inl ⟨fragments, further List.suffix_rfl, by rw [empty]; rfl⟩
      · cases first with
        | secret value => exact .inr ⟨part, _, ⟨front, isFirst.symm⟩, empty, rfl⟩
        | plain c =>
          have isWhole : part = [c] := by
            have isEnd : part <:+ [c] := ⟨front, isFirst.symm⟩
            refine isEnd.eq_of_length_le ?_
            exact List.length_pos_of_ne_nil empty
          exact .inl ⟨.plain c :: fragments, List.suffix_rfl, by rw [isWhole]; rfl⟩
    · rcases ih ⟨front', rest.symm⟩ with ⟨others, isEnd, shows⟩ | inMask
      · exact .inl ⟨others, further isEnd, shows⟩
      · exact .inr inMask

end

namespace Marker

variable {marker other : Marker} {kept rest text : List Char} {fragments : List Fragment}

/-- A text cut into fragments at the secrets of a marker, from left to right. What announces a
secret stays. -/
inductive Cuts (marker : Marker) : List Fragment → Prop
  | nil : Cuts marker []
  | plain {c : Char} {fragments : List Fragment}
    (none : marker.split? (c :: givenText fragments) = none) (more : Cuts marker fragments) :
    Cuts marker (.plain c :: fragments)
  | secret {kept value : List Char} {fragments : List Fragment} (announced : marker.Announces kept)
    (isSecret : marker.Secret value (givenText fragments)) (more : Cuts marker fragments) :
    Cuts marker (plainText kept ++ .secret value :: fragments)

/-- A text can be cut, and what its fragments show is the text with its secrets masked. -/
theorem exists_cuts (regular : marker.Regular) (text : List Char) :
    ∃ fragments, marker.Cuts fragments ∧ givenText fragments = text ∧
      shownText fragments = marker.redact text := by
  induction size : text.length using Nat.strong_induction_on generalizing text with
  | _ size ih =>
    subst size
    cases text with
    | nil => exact ⟨[], .nil, rfl, rfl⟩
    | cons c text =>
      cases found : marker.split? (c :: text) with
      | none =>
        obtain ⟨fragments, cuts, rfl, shows⟩ := ih text.length (Nat.lt_add_one _) text rfl
        refine ⟨.plain c :: fragments, .plain found cuts, rfl, ?_⟩
        rw [redact_of_none found, ← shows]
        rfl
      | some parts =>
        obtain ⟨kept, rest⟩ := parts
        obtain ⟨value, whole, announced, isSecret⟩ := (split?_eq_some regular).mp found
        have shorter : rest.length < (c :: text).length := by
          have longer := List.length_pos_of_ne_nil (announced.ne_nil regular)
          rw [whole]
          simp only [List.length_append]
          omega
        obtain ⟨fragments, cuts, rfl, shows⟩ := ih rest.length shorter rest rfl
        refine ⟨plainText kept ++ .secret value :: fragments,
          .secret announced isSecret cuts, ?_, ?_⟩
        · rw [whole, givenText_append, givenText_plainText]
          rfl
        · rw [redact_of_split? regular found, shownText_append, shownText_plainText, ← shows,
            List.append_assoc]
          rfl

theorem startsPlain_plainText (some : kept ≠ []) (others : List Fragment) :
    StartsPlain (plainText kept ++ others) := by
  obtain ⟨c, kept, rfl⟩ := List.exists_cons_of_ne_nil some
  intro value first
  cases first

theorem Cuts.startsPlain (regular : marker.Regular) (cuts : marker.Cuts fragments) :
    StartsPlain fragments := by
  cases cuts with
  | nil => exact fun value first => by cases first
  | plain => exact fun value first => by cases first
  | secret announced => exact startsPlain_plainText (announced.ne_nil regular) _

/-- **Every secret of a cut text is a whole secret that is announced in front of it.** -/
theorem Cuts.of_secret {value : List Char} {before after : List Fragment}
    (cuts : marker.Cuts fragments) (split : fragments = before ++ .secret value :: after) :
    marker.Cuts after ∧ marker.Secret value (givenText after) ∧
      ∃ kept, plainText kept <:+ before ∧ marker.Announces kept := by
  induction cuts generalizing before with
  | nil => exact absurd split (by simp)
  | @plain c fragments none more ih =>
    cases before with
    | nil => cases (List.cons.inj split).1
    | cons first before =>
      obtain ⟨cuts, isSecret, kept, isEnd, announced⟩ := ih (List.cons.inj split).2
      exact ⟨cuts, isSecret, kept, isEnd.trans (List.suffix_cons _ _), announced⟩
  | @secret kept value' fragments announced isSecret more ih =>
    have noSecret (front back : List Fragment) : plainText kept ≠ front ++ .secret value :: back :=
      fun equal => by
        have inside : Fragment.secret value ∈ plainText kept := by simp [equal]
        obtain ⟨c, -, isPlain⟩ := List.mem_map.mp inside
        cases isPlain
    rcases List.append_eq_append_iff.mp split with ⟨part, rfl, isRest⟩ | ⟨part, isFirst, isRest⟩
    · cases part with
      | nil =>
        obtain ⟨isValue, rfl⟩ := List.cons.inj isRest
        obtain rfl := Fragment.secret.inj isValue
        exact ⟨more, isSecret, kept, by simp, announced⟩
      | cons first part =>
        obtain ⟨cuts, isSecret, kept', isEnd, announced⟩ := ih (List.cons.inj isRest).2
        refine ⟨cuts, isSecret, kept', isEnd.trans ?_, announced⟩
        exact (List.suffix_cons _ _).trans (List.suffix_append _ _)
    · cases part with
      | nil =>
        obtain ⟨isValue, rfl⟩ := List.cons.inj isRest
        obtain rfl := Fragment.secret.inj isValue
        exact ⟨more, isSecret, kept, by simp [isFirst], announced⟩
      | cons first part =>
        obtain ⟨rfl, -⟩ := List.cons.inj isRest
        exact absurd isFirst (noSecret _ _)

/-- **What is found in a cut text is where it was cut.** -/
theorem Cuts.of_split? {here : List Fragment} (member : marker ∈ markers)
    (cuts : marker.Cuts fragments) (isEnd : here <:+ fragments) (plain : StartsPlain here)
    (found : marker.split? (givenText here) = some (kept, rest)) :
    ∃ value after, here = plainText kept ++ .secret value :: after := by
  have regular := regular_of_mem member
  induction cuts with
  | nil =>
    obtain rfl := List.suffix_nil.mp isEnd
    obtain ⟨value, whole, announced, -⟩ := (split?_eq_some regular).mp found
    exact absurd (List.append_eq_nil_iff.mp whole.symm).1 (announced.ne_nil regular)
  | @plain c fragments none more ih =>
    rcases List.suffix_cons_iff.mp isEnd with rfl | isEnd
    · exact absurd (none.symm.trans found) (by simp)
    · exact ih isEnd
  | @secret kept' value fragments announced isSecret more ih =>
    rcases List.suffix_or_suffix_of_suffix isEnd (List.suffix_append _ _) with short | ⟨front, rfl⟩
    · rcases List.suffix_cons_iff.mp short with rfl | isEnd
      · exact absurd rfl (plain value)
      · exact ih isEnd
    · obtain ⟨before, whole⟩ := isEnd
      rw [← List.append_assoc, List.append_left_inj] at whole
      obtain ⟨first, part, rfl, -, rfl⟩ := List.map_eq_append_iff.mp whole.symm
      refine ⟨value, fragments, ?_⟩
      have given : givenText (part.map .plain ++ .secret value :: fragments) =
          part ++ (value ++ givenText fragments) := by
        rw [givenText_append]
        exact congrArg (· ++ _) givenText_plainText
      rw [given] at found
      by_cases all : part = first ++ part
      · have isWhole := (split?_eq_some regular).mpr ⟨value, rfl, announced, isSecret⟩
        rw [← all, found] at isWhole
        obtain ⟨rfl, -⟩ := Prod.mk.inj (Option.some.inj isWhole)
        rfl
      · have some : part ≠ [] := by
          rintro rfl
          exact plain value rfl
        have unfound : marker.split? (part ++ (value ++ givenText fragments)) = none :=
          split?_inside member announced (List.suffix_append _ _) all some
        exact absurd (unfound.symm.trans found) (by simp)

/-- A secret at the beginning of a text is found, whatever is behind it. -/
theorem split?_of_isSecret {c : Char} {more : List Char} (regular : marker.Regular)
    (announced : marker.Announces kept) (isSecret : marker.isSecret c) :
    ∃ rest, marker.split? (kept ++ c :: more) = some (kept, rest) ∧
      ∀ d ∈ rest.head?, marker.isSecret d = false := by
  have secret : marker.Secret ((c :: more).takeWhile marker.isSecret)
      ((c :: more).dropWhile marker.isSecret) := by
    refine ⟨by simp [isSecret], fun d member => List.mem_takeWhile_imp member, fun d first => ?_⟩
    have stop := List.head?_dropWhile_not marker.isSecret (c :: more)
    rw [Option.mem_def.mp first] at stop
    exact stop
  exact ⟨_, (split?_eq_some regular).mpr
    ⟨_, by rw [List.takeWhile_append_dropWhile], announced, secret⟩, secret.ends⟩

theorem suffix_of_plainText {part whole : List Char} (isEnd : plainText part <:+ plainText whole) :
    part <:+ whole := by
  obtain ⟨front, split⟩ := isEnd
  obtain ⟨first, part', rfl, -, same⟩ := List.map_eq_append_iff.mp split.symm
  obtain rfl := List.map_injective_iff.mpr (fun c d equal => Fragment.plain.inj equal) same
  exact List.suffix_append _ _

/-- A mask that was there before cutting stays, and so does what is behind it. -/
theorem Cuts.exists_mask {part : List Char} {front behind : List Fragment}
    (member : marker ∈ markers) (cuts : marker.Cuts fragments) (inMask : part <:+ mask)
    (split : fragments = front ++ behind) (plain : StartsPlain behind)
    (given : givenText behind = part ++ rest) :
    ∃ others, behind = plainText part ++ others ∧ givenText others = rest ∧ StartsPlain others := by
  induction part generalizing front behind with
  | nil => exact ⟨behind, rfl, given, plain⟩
  | cons c part ih =>
    cases behind with
    | nil => cases given
    | cons first behind =>
      cases first with
      | secret value => exact absurd rfl (plain value)
      | plain d =>
        obtain ⟨rfl, given'⟩ : d = c ∧ givenText behind = part ++ rest := List.cons.inj given
        have split' : fragments = (front ++ [.plain d]) ++ behind := by simp [split]
        have plain' : StartsPlain behind := fun value first => by
          -- A secret here would be announced by a character of the mask.
          obtain ⟨others, rfl⟩ := List.head?_eq_some_iff.mp first
          obtain ⟨-, -, kept, isEnd, announced⟩ := cuts.of_secret split'
          have longer := List.length_pos_of_ne_nil (announced.ne_nil (regular_of_mem member))
          have isLast : plainText [d] <:+ plainText kept :=
            List.suffix_of_suffix_length_le (List.suffix_append _ _) isEnd (by
              simpa [plainText, Nat.succ_le_iff] using longer)
          exact announced.not_mem_mask member (suffix_of_plainText isLast)
            (inMask.mem List.mem_cons_self)
        obtain ⟨others, rfl, isRest, plainOthers⟩ :=
          ih ((List.suffix_cons _ _).trans inMask) split' plain' given'
        exact ⟨others, rfl, isRest, plainOthers⟩

/-! ### Settled texts -/

/-- What stands behind a marker is the mask, wherever it is announced. -/
def Settled (marker : Marker) (text : List Char) : Prop :=
  ∀ here kept rest, here <:+ text → marker.split? here = some (kept, rest) →
    here = kept ++ mask ++ rest

/-- A secret is determined by the text that begins with it. -/
theorem Secret.unique {value value' rest' : List Char} (secret : marker.Secret value rest)
    (secret' : marker.Secret value' rest') (same : value ++ rest = value' ++ rest') :
    value = value' ∧ rest = rest' := by
  obtain ⟨taken, left⟩ := takeWhile_append_stop secret.all secret.ends
  obtain ⟨taken', left'⟩ := takeWhile_append_stop secret'.all secret'.ends
  exact ⟨by rw [← taken, ← taken', same], by rw [← left, ← left', same]⟩

section

variable {front after : List Fragment} (member : marker ∈ markers) (member' : other ∈ markers)
  (announced : other.Announces kept)

include member member' announced

/-- Where a secret is masked and announced in two ways, it is of one kind, and all of it is
masked. -/
theorem shows_masked {value : List Char}
    (cuts : marker.Cuts (front ++ plainText kept ++ .secret value :: after)) :
    ∀ c ∈ (shownText after).head?, other.isSecret c = false := by
  obtain ⟨cutsAfter, isSecret, kept', isEnd, announced'⟩ := cuts.of_secret rfl
  have same : marker = other := by
    rcases List.suffix_or_suffix_of_suffix isEnd (List.suffix_append _ _) with short | long
    · exact announced'.eq_of_suffix member member' announced (suffix_of_plainText short)
    · exact (announced.eq_of_suffix member' member announced' (suffix_of_plainText long)).symm
  subst same
  rw [head?_shownText (cutsAfter.startsPlain (regular_of_mem member))]
  exact isSecret.ends

/-- Where nothing is masked behind an announcement, the mask was there before. -/
theorem shows_unmasked {c : Char} (before : other = marker ∨
      other.Settled (givenText (front ++ plainText kept ++ .plain c :: after)))
    (cuts : marker.Cuts (front ++ plainText kept ++ .plain c :: after))
    (isSecret : other.isSecret c) :
    ∃ rest, shownText (.plain c :: after) = mask ++ rest ∧
      ∀ d ∈ rest.head?, other.isSecret d = false := by
  obtain ⟨rest, found, ends⟩ : ∃ rest, other.split? (kept ++ c :: givenText after) =
      some (kept, rest) ∧ ∀ d ∈ rest.head?, other.isSecret d = false :=
    split?_of_isSecret (regular_of_mem member') announced isSecret
  have given : givenText (plainText kept ++ .plain c :: after) = kept ++ c :: givenText after := by
    rw [givenText_append, givenText_plainText]
    rfl
  have plain : StartsPlain (.plain c :: after) := fun value first => by cases first
  rcases before with rfl | settled
  · have isEnd : plainText kept ++ .plain c :: after <:+
        front ++ plainText kept ++ .plain c :: after := by
      rw [List.append_assoc]
      exact List.suffix_append _ _
    obtain ⟨value, after', isCut⟩ := cuts.of_split? member isEnd
      (startsPlain_plainText (announced.ne_nil (regular_of_mem member)) _) (given ▸ found)
    cases List.append_cancel_left isCut
  · have isEnd : kept ++ c :: givenText after <:+
        givenText (front ++ plainText kept ++ .plain c :: after) := by
      rw [List.append_assoc, givenText_append, given]
      exact List.suffix_append _ _
    have masked := settled _ _ _ isEnd found
    rw [List.append_assoc, List.append_right_inj] at masked
    obtain ⟨others, isMask, rfl, plainOthers⟩ :=
      cuts.exists_mask member List.suffix_rfl rfl plain masked
    refine ⟨shownText others, ?_, ?_⟩
    · rw [isMask, shownText_append, shownText_plainText]
    · rw [head?_shownText plainOthers]
      exact ends

end

/-- **Masking settles a text for its marker and keeps it settled for others.** -/
theorem settled_redact (member : marker ∈ markers) (member' : other ∈ markers)
    (before : other = marker ∨ other.Settled text) : other.Settled (marker.redact text) := by
  obtain ⟨fragments, cuts, rfl, shows⟩ := exists_cuts (regular_of_mem member) text
  rw [← shows]
  intro here kept rest isEnd found
  obtain ⟨value, whole, announced, isSecret⟩ :=
    (split?_eq_some (regular_of_mem member')).mp found
  rcases suffix_shownText isEnd with
    ⟨others, ⟨front, rfl⟩, showsHere⟩ | ⟨part, more, inMask, some, rfl⟩
  · obtain ⟨behind, rfl, showsBehind⟩ :=
      exists_plainText (announced.ne_star member') (showsHere.trans whole)
    rw [← List.append_assoc] at cuts before
    obtain ⟨rest', masked, ends⟩ : ∃ rest', shownText behind = mask ++ rest' ∧
        ∀ c ∈ rest'.head?, other.isSecret c = false := by
      cases behind with
      | nil => exact absurd (List.append_eq_nil_iff.mp showsBehind.symm).1 isSecret.some
      | cons first after =>
        cases first with
        | secret value => exact ⟨_, rfl, shows_masked member member' announced cuts⟩
        | plain c =>
          refine shows_unmasked member member' announced before cuts ?_
          obtain ⟨d, value, rfl⟩ := List.exists_cons_of_ne_nil isSecret.some
          obtain ⟨rfl, -⟩ := List.cons.inj showsBehind
          exact isSecret.all _ List.mem_cons_self
    have isMask : other.Secret mask rest' :=
      ⟨by decide, (regular_of_mem member').mask, ends⟩
    obtain ⟨rfl, -⟩ := isSecret.unique isMask (showsBehind.symm.trans masked)
    rw [whole, List.append_assoc]
  · exact absurd (found.symm.trans (split?_mask member' inMask some)) (by simp)

/-- **A settled text stays as it is.** -/
theorem Settled.redact_eq (member : marker ∈ markers) (settled : marker.Settled text) :
    marker.redact text = text := by
  have regular := regular_of_mem member
  induction size : text.length using Nat.strong_induction_on generalizing text with
  | _ size ih =>
    subst size
    cases text with
    | nil => rfl
    | cons c text =>
      have rest_settled {rest : List Char} (isEnd : rest <:+ c :: text) : marker.Settled rest :=
        fun here kept rest' inside => settled here kept rest' (inside.trans isEnd)
      cases found : marker.split? (c :: text) with
      | none =>
        rw [redact_of_none found,
          ih text.length (Nat.lt_add_one _) (rest_settled (List.suffix_cons _ _)) rfl]
      | some parts =>
        obtain ⟨kept, rest⟩ := parts
        have whole := settled _ _ _ List.suffix_rfl found
        have isEnd : rest <:+ c :: text := whole ▸ List.suffix_append _ _
        have shorter : rest.length < (c :: text).length := by
          rw [whole, List.length_append, List.length_append]
          have : 0 < mask.length := by decide
          omega
        rw [redact_of_split? regular found, ih rest.length shorter (rest_settled isEnd) rfl,
          ← whole]

end Marker

/-! ### All markers -/

section

open Marker

variable {text : List Char}

/-- Masking the secrets behind some markers settles a text for them, and keeps it settled for
others. -/
theorem settled_foldl {used : List Marker} (known : ∀ marker ∈ used, marker ∈ markers)
    {marker : Marker} (member : marker ∈ markers) (before : marker ∈ used ∨ marker.Settled text) :
    marker.Settled (used.foldl (fun text marker => marker.redact text) text) := by
  induction used generalizing text with
  | nil => exact before.resolve_left List.not_mem_nil
  | cons first used ih =>
    obtain ⟨isKnown, known⟩ := List.forall_mem_cons.mp known
    refine ih known (or_iff_not_imp_left.mpr fun later => settled_redact isKnown member ?_)
    exact before.imp_left fun inside => (List.mem_cons.mp inside).resolve_right later

theorem foldl_of_settled {used : List Marker} (known : ∀ marker ∈ used, marker ∈ markers)
    (settled : ∀ marker ∈ used, marker.Settled text) :
    used.foldl (fun text marker => marker.redact text) text = text := by
  induction used with
  | nil => rfl
  | cons first used ih =>
    rw [List.forall_mem_cons] at known settled
    rw [List.foldl_cons, settled.1.redact_eq known.1, ih known.2 settled.2]

end

/-- A text with its secrets masked has nothing but masks behind every marker. -/
theorem settled_redactText (text : String) {marker : Marker} (member : marker ∈ markers) :
    marker.Settled (redactText text).toList := by
  rw [redactText, String.toList_ofList]
  exact settled_foldl (fun _ inside => inside) member (.inl member)

/-- Masking secrets twice is masking them once. -/
theorem redactText_redactText (text : String) : redactText (redactText text) = redactText text := by
  have same := foldl_of_settled (fun _ inside => inside) fun _ => settled_redactText text
  rw [redactText, same, String.ofList_toList]

/-- The record that a handler writes. Every handler masks the secrets of the record that the ones
before it have left. -/
def LogRecord.handled (record : LogRecord) : Nat → LogRecord
  | 0 => record.redacted
  | before + 1 => (record.handled before).redacted

theorem LogRecord.redacted_redacted (record : LogRecord) :
    record.redacted.redacted = record.redacted := by
  have same (message : Json) : redactMessage (redactMessage message) = redactMessage message := by
    cases message with
    | string text => exact congrArg Json.string (redactText_redactText text)
    | _ => rfl
  simp only [redacted, same]

theorem LogRecord.handled_eq (record : LogRecord) (before : Nat) :
    record.handled before = record.redacted := by
  induction before with
  | zero => rfl
  | succ before ih => rw [handled, ih, redacted_redacted]

/-- **Masking the secrets of a message once is enough.** What is found behind a marker afterwards is
the mask, wherever it is announced, masking again changes nothing, and all handlers of a record
write the same line. -/
theorem redactText_once (text : String) (record : LogRecord) (before : Nat) (format : LogFormat) :
    (∀ marker ∈ markers, marker.Settled (redactText text).toList) ∧
      redactText (redactText text) = redactText text ∧
      (LogRecord.handled { record with message := .string text } before).line format =
        (LogRecord.handled { record with message := .string text } 0).line format := by
  refine ⟨fun marker member => settled_redactText text member, redactText_redactText text, ?_⟩
  rw [LogRecord.handled_eq, LogRecord.handled_eq]

/-- An authorization hides an account key together with the end of the key, and one key that is
assigned hides the name of another one. -/
theorem redactText_once_nested :
    redactText "Authorization: AccountKey=a;b masterKey=resourceToken\" : x" =
        "Authorization: ***REDACTED*** masterKey=***REDACTED***\" : x" ∧
      ∀ marker ∈ markers, marker.Settled
        "Authorization: ***REDACTED*** masterKey=***REDACTED***\" : x".toList := by
  have masked : redactText "Authorization: AccountKey=a;b masterKey=resourceToken\" : x" =
      "Authorization: ***REDACTED*** masterKey=***REDACTED***\" : x" := by decide +kernel
  have once := redactText_once "Authorization: AccountKey=a;b masterKey=resourceToken\" : x"
    { created := .zero false, level := .info, logger := "", message := .null } 1 .text
  exact ⟨masked, masked ▸ once.1⟩

end DocQuery
