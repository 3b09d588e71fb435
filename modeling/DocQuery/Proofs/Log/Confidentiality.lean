/-
**Account keys do not show.**

What is left of a message does not depend on an account key that it holds, whatever stands in front
of the key and behind its end.

* `split?_anotherKey`: a secret that is found in front of a key either is over before the key
  begins, or it hides all of the key;
* `redact_accountKey`: hence masking account keys gives the same text for any two keys;
* `redactText_accountKey`: and so does masking all secrets.
-/

import DocQuery.Proofs.Log.Redaction

namespace DocQuery

/-- The marker of account keys. -/
def accountKey : Marker := ⟨"accountkey=".toList, .empty, fun c => c != ';'⟩

section

open Marker

theorem accountKey_mem : accountKey ∈ markers := List.mem_cons_self

theorem announces_accountKey {kept : List Char} :
    accountKey.Announces kept ↔ kept.map smallLetter = accountKey.word := by
  constructor
  · rintro ⟨word, between, rfl, spelled, ⟨⟩⟩
    rwa [List.append_nil]
  · exact fun spelled => ⟨kept, [], (List.append_nil kept).symm, spelled, .empty⟩

/-- The word does not end as it begins, so that it does not overlap with itself. -/
theorem accountKey_no_border {part : List Char} (isEnd : part <:+ accountKey.word)
    (isStart : part <+: accountKey.word) : part = [] ∨ part = accountKey.word := by
  have all : ∀ part ∈ accountKey.word.tails, part <+: accountKey.word →
      part = [] ∨ part = accountKey.word := by decide
  exact all part ((List.mem_tails _ _).mpr isEnd) isStart

variable {before name key key' behind kept rest : List Char}
  (spelled : name.map smallLetter = accountKey.word)

include spelled

theorem name_ne_nil : name ≠ [] := by
  rintro rfl
  exact absurd spelled (by decide)

/-- The word holds no semicolon. -/
theorem isSecret_of_mem_name {c : Char} (member : c ∈ name) : accountKey.isSecret c :=
  bne_iff_ne.mpr fun semicolon => by
    have inside : smallLetter c ∈ accountKey.word := spelled ▸ List.mem_map_of_mem member
    subst semicolon
    exact absurd inside (by decide)

/-- A word that is found in front of another one is over before it. -/
theorem exists_between {tail more : List Char} (inside : before ≠ [])
    (announced : accountKey.Announces kept) (whole : before ++ (name ++ tail) = kept ++ more) :
    ∃ between, before = kept ++ between ∧ more = between ++ (name ++ tail) := by
  rcases List.append_eq_append_iff.mp whole with ⟨part, rfl, rest⟩ | found
  · have sizes := congrArg List.length (announces_accountKey.mp announced)
    have sizes' := congrArg List.length spelled
    have longer := List.length_pos_of_ne_nil inside
    simp only [List.length_map, List.length_append] at sizes sizes'
    have isStart : part <+: name :=
      List.prefix_of_prefix_length_le ⟨more, rest.symm⟩ (List.prefix_append _ _) (by omega)
    have isEnd : part.map smallLetter <:+ accountKey.word := by
      rw [← announces_accountKey.mp announced, List.map_append]
      exact List.suffix_append _ _
    rcases accountKey_no_border isEnd (spelled ▸ isStart.map _) with empty | all
    · obtain rfl := List.map_eq_nil_iff.mp empty
      exact ⟨[], by simp, by simpa using rest.symm⟩
    · have sizes'' := congrArg List.length all
      simp only [List.length_map] at sizes''
      omega
  · exact found

/-- **A secret in front of a key ends before the key or hides it**, and is found in front of any
other key as well. -/
theorem split?_anotherKey (inside : before ≠ []) (secret : accountKey.Secret key behind)
    (secret' : accountKey.Secret key' behind)
    (found : accountKey.split? (before ++ (name ++ (key ++ behind))) = some (kept, rest)) :
    (rest = behind ∧
      accountKey.split? (before ++ (name ++ (key' ++ behind))) = some (kept, behind)) ∨
    ∃ before', before'.length < before.length ∧ rest = before' ++ (name ++ (key ++ behind)) ∧
      accountKey.split? (before ++ (name ++ (key' ++ behind))) =
        some (kept, before' ++ (name ++ (key' ++ behind))) := by
  have regular := regular_of_mem accountKey_mem
  obtain ⟨value, whole, announced, isSecret⟩ := (split?_eq_some regular).mp found
  obtain ⟨between, rfl, split⟩ := exists_between spelled inside announced whole
  have longer := List.length_pos_of_ne_nil (announced.ne_nil regular)
  rcases List.append_eq_append_iff.mp split with ⟨before', rfl, rfl⟩ | ⟨hidden, rfl, split'⟩
  · refine .inr ⟨before', by simp only [List.length_append]; omega, rfl,
      (split?_eq_some regular).mpr ⟨value, by simp, announced, isSecret.some, isSecret.all, ?_⟩⟩
    obtain ⟨c, name, rfl⟩ := List.exists_cons_of_ne_nil (name_ne_nil spelled)
    intro d first
    refine isSecret.ends d ?_
    simpa [List.head?_append] using first
  · have all {key : List Char} (secret : accountKey.Secret key behind) :
        ∀ c ∈ name ++ key, accountKey.isSecret c :=
      List.forall_mem_append.mpr ⟨fun c => isSecret_of_mem_name spelled, secret.all⟩
    have hiddenAll : ∀ c ∈ hidden, accountKey.isSecret c := fun c member =>
      isSecret.all c (List.mem_append_right _ member)
    have left := (takeWhile_append_stop (all secret) secret.ends).2
    rw [List.append_assoc, split', (takeWhile_append_stop hiddenAll isSecret.ends).2] at left
    refine .inl ⟨left, (split?_eq_some regular).mpr
      ⟨between ++ (name ++ key'), by simp, announced, ?_, ?_, secret'.ends⟩⟩
    · simp [name_ne_nil spelled]
    · exact List.forall_mem_append.mpr
        ⟨fun c member => isSecret.all c (List.mem_append_left _ member), all secret'⟩

/-- **Masking account keys gives the same text for any two keys.** -/
theorem redact_accountKey (secret : accountKey.Secret key behind)
    (secret' : accountKey.Secret key' behind) :
    accountKey.redact (before ++ (name ++ (key ++ behind))) =
      accountKey.redact (before ++ (name ++ (key' ++ behind))) := by
  have regular := regular_of_mem accountKey_mem
  induction size : before.length using Nat.strong_induction_on generalizing before with
  | _ size ih =>
    subst size
    cases before with
    | nil =>
      have found {key : List Char} (secret : accountKey.Secret key behind) :
          accountKey.split? (name ++ (key ++ behind)) = some (name, behind) :=
        (split?_eq_some regular).mpr ⟨key, rfl, announces_accountKey.mpr spelled, secret⟩
      rw [List.nil_append, List.nil_append, redact_of_split? regular (found secret),
        redact_of_split? regular (found secret')]
    | cons c before =>
      have inside : c :: before ≠ [] := List.cons_ne_nil _ _
      cases found : accountKey.split? (c :: before ++ (name ++ (key ++ behind))) with
      | none =>
        -- With the other key nothing is found either, or else it would be found here too.
        have found' : accountKey.split? (c :: before ++ (name ++ (key' ++ behind))) = none := by
          cases found' : accountKey.split? (c :: before ++ (name ++ (key' ++ behind))) with
          | none => rfl
          | some parts =>
            rcases split?_anotherKey spelled inside secret' secret found' with ⟨-, other⟩ | other
            · exact absurd (found.symm.trans other) (by simp)
            · obtain ⟨_, -, -, other⟩ := other
              exact absurd (found.symm.trans other) (by simp)
        rw [List.cons_append] at found found' ⊢
        rw [List.cons_append, redact_of_none found, redact_of_none found',
          ih before.length (Nat.lt_add_one _) rfl]
      | some parts =>
        rcases split?_anotherKey spelled inside secret secret' found with ⟨same, other⟩ | other
        · rw [redact_of_split? regular found, redact_of_split? regular other, same]
        · obtain ⟨before', fewer, same, other⟩ := other
          rw [redact_of_split? regular found, redact_of_split? regular other, same,
            ih before'.length fewer rfl]

end

/-- **An account key never influences what is left of a message.** The name of the key may be
written in any case, and the key ends at a semicolon or with the message. -/
theorem redactText_accountKey {before name key key' behind : String}
    (spelled : name.toList.map smallLetter = "accountkey=".toList)
    (some : key ≠ "") (some' : key' ≠ "") (noEnd : ';' ∉ key.toList) (noEnd' : ';' ∉ key'.toList)
    (ended : ∀ c ∈ behind.toList.head?, c = ';') :
    redactText (before ++ name ++ key ++ behind) =
      redactText (before ++ name ++ key' ++ behind) := by
  have secret {key : String} (some : key ≠ "") (noEnd : ';' ∉ key.toList) :
      accountKey.Secret key.toList behind.toList :=
    ⟨by simpa using some, fun c member => bne_iff_ne.mpr fun same => noEnd (same ▸ member),
      fun c first => by rw [ended c first]; rfl⟩
  have same : accountKey.redact (before.toList ++ (name.toList ++ (key.toList ++ behind.toList))) =
      accountKey.redact (before.toList ++ (name.toList ++ (key'.toList ++ behind.toList))) :=
    redact_accountKey spelled (secret some noEnd) (secret some' noEnd')
  simp only [redactText, String.toList_append, List.append_assoc]
  rw [show markers = accountKey :: markers.tail from rfl, List.foldl_cons, List.foldl_cons, same]

/-- The key holds a marker of its own and a line break, and stands behind a marker that takes it
for an authorization. -/
theorem redactText_accountKey_marked :
    ("ACCOUNTkey=".toList.map smallLetter = "accountkey=".toList ∧ "k\nmasterKey=1" ≠ "" ∧
        "*" ≠ "" ∧ ';' ∉ "k\nmasterKey=1".toList ∧ ';' ∉ "*".toList ∧
        ∀ c ∈ ";Version=1".toList.head?, c = ';') ∧
      redactText ("Authorization: AccountKey=;" ++ "ACCOUNTkey=" ++ "k\nmasterKey=1" ++
          ";Version=1") =
        redactText ("Authorization: AccountKey=;" ++ "ACCOUNTkey=" ++ "*" ++ ";Version=1") :=
  have ended : ∀ c ∈ ";Version=1".toList.head?, c = ';' := fun _ first =>
    (Option.some.inj first).symm
  ⟨⟨by decide, by decide, by decide, by decide, by decide, ended⟩,
    redactText_accountKey (by decide) (by decide) (by decide) (by decide) (by decide) ended⟩

end DocQuery
