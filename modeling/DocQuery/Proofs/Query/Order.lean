/-
**Where the order of documents is well defined.**

* `keyValues`: the values of documents under a key;
* `transitiveOn_compareDocuments`: the comparison by keys, each ascending or descending, is
  transitive on documents if it is so on the values under each key;
* `compareOperands_preorder`: the order of operands is oriented and, among operands of like kinds, a
  total preorder, so that documents with such values under their keys have one arrangement.
-/

import DocQuery.Proofs.Operand.Preorder
import DocQuery.Proofs.Query.Execution

namespace DocQuery

open Std (OrientedCmp ReflCmp)

section

variable (aliases : List String)

/-- The values of documents under a key. -/
def keyValues (key : OrderKey) (documents : List Fields) : Set Operand :=
  fun value => ∃ document ∈ documents,
    propertyOf aliases (.json (.object document)) key.path = value

/-- What a document has at the end of a path is a JSON value or missing. -/
theorem isPlain_propertyOf (value : Json) (path : String) :
    (propertyOf aliases (.json value) path).IsPlain := by
  unfold propertyOf
  dsimp only
  split
  · exact .json _
  · exact .missing

instance (key : OrderKey) : OrientedCmp (keyOrder aliases key) := ⟨keyOrder_swap aliases key _ _⟩

/-- A key that is ascending or descending puts documents in an order if their values are in one. -/
theorem transitiveOn_keyOrder {key : OrderKey} {documents : List Fields}
    (preorder : PreorderOn (keyValues aliases key documents)) :
    TransitiveOn (keyOrder aliases key) documents := by
  intro first inFirst second inSecond third inThird less less'
  have trans := preorder.transitive
  unfold keyOrder at less less' ⊢
  cases isDescending : key.descending with
  | false =>
    rw [isDescending] at less less'
    exact trans _ ⟨first, inFirst, rfl⟩ _ ⟨second, inSecond, rfl⟩ _ ⟨third, inThird, rfl⟩ less less'
  | true =>
    rw [isDescending] at less less'
    dsimp only [if_true] at less less' ⊢
    rw [← OrientedCmp.eq_swap] at less less' ⊢
    exact trans _ ⟨third, inThird, rfl⟩ _ ⟨second, inSecond, rfl⟩ _ ⟨first, inFirst, rfl⟩ less' less

theorem transitiveOn_compareDocuments {keys : List OrderKey} {documents : List Fields}
    (preorder : ∀ key ∈ keys, PreorderOn (keyValues aliases key documents)) :
    TransitiveOn (compareDocuments aliases keys) documents := by
  induction keys with
  | nil => exact fun _ _ _ _ _ _ _ _ => rfl
  | cons key more ih =>
    obtain ⟨preorderKey, preorderMore⟩ := List.forall_mem_cons.mp preorder
    exact (transitiveOn_keyOrder aliases preorderKey).lexicographic (ih preorderMore)

/-- Documents in the order of keys are arranged, and in no other way could they be. -/
theorem arranged_orderDocuments {keys : List OrderKey} {documents : List Fields}
    (preorder : ∀ key ∈ keys, PreorderOn (keyValues aliases key documents)) :
    Arranged aliases keys documents (orderDocuments aliases keys documents) ∧
      ∀ other, Arranged aliases keys documents other →
        other = orderDocuments aliases keys documents := by
  have arranges := stableArrangement_mergeSort (transitiveOn_compareDocuments aliases preorder)
  rw [orderDocuments_eq]
  exact ⟨(arranged_iff _ _).mpr arranges, fun other isOther =>
    ((arranged_iff _ _).mp isOther).unique arranges⟩

end

/-- **The order of operands can be sorted by.** Every operand ties with itself, and two operands
compare in opposite ways from both sides. Numbers compare by their values, which are exact. On
operands none of which is a number, and on numbers and absent operands, the order is a total
preorder, in which absent operands are the least ones and equal to each other. Documents that have
such values under each of some keys are therefore arranged in the order of these keys in one way. -/
theorem compareOperands_preorder :
    (∀ value, compareOperands value value = .eq) ∧
    (∀ left right, compareOperands right left = (compareOperands left right).swap) ∧
    (∀ (left right : Operand) (x y : Extended), left.number? = some x → right.number? = some y →
      compareOperands left right = cmp x y) ∧
    (∀ values, IsUniform values → PreorderOn values) ∧
    ∀ (aliases : List String) (keys : List OrderKey) (documents : List Fields),
      (∀ key ∈ keys, IsUniform (keyValues aliases key documents)) →
      Arranged aliases keys documents (orderDocuments aliases keys documents) ∧
        ∀ other, Arranged aliases keys documents other →
          other = orderDocuments aliases keys documents := by
  refine ⟨fun _ => ReflCmp.compare_self, fun _ _ => OrientedCmp.eq_swap,
    fun _ _ _ _ => compareOperands_numbers, fun _ => preorderOn_of_isUniform,
    fun aliases keys documents uniform => arranged_orderDocuments aliases ?_⟩
  exact fun key member => preorderOn_of_isUniform (uniform key member)

/-- Documents with numbers, one of them null, under one name and with other values under another. -/
def twoKinds : List Fields :=
  [[("x", .int 2), ("y", .string "b")], [("x", .null), ("y", .bool true)],
    [("x", .float (.ofInt 2)), ("y", .array [.int 1])], [("y", .null), ("x", .int 3)]]

/-- Numbers in descending order, and then the other values in ascending order. -/
theorem compareOperands_preorder_twoKinds :
    IsUniform (keyValues ["c"] ⟨"c.x", true⟩ twoKinds) ∧
    IsUniform (keyValues ["c"] ⟨"c.y", false⟩ twoKinds) ∧
    PreorderOn (keyValues ["c"] ⟨"c.x", true⟩ twoKinds) ∧
    compareOperands (.json (.int 10)) (.json (.float (.infinite false))) =
      cmp (integerValue 10) ⊤ ∧
    Arranged ["c"] [⟨"c.x", true⟩, ⟨"c.y", false⟩] twoKinds
      (orderDocuments ["c"] [⟨"c.x", true⟩, ⟨"c.y", false⟩] twoKinds) := by
  have numbers : IsUniform (keyValues ["c"] ⟨"c.x", true⟩ twoKinds) := by
    refine .inr ?_
    rintro _ ⟨document, member, rfl⟩
    revert document
    decide +kernel
  have texts : IsUniform (keyValues ["c"] ⟨"c.y", false⟩ twoKinds) := by
    refine .inl ?_
    rintro _ ⟨document, member, rfl⟩
    refine ⟨isPlain_propertyOf .., ?_⟩
    revert document
    decide +kernel
  obtain ⟨-, -, exact, preorder, arranged⟩ := compareOperands_preorder
  refine ⟨numbers, texts, preorder _ numbers, exact _ _ _ _ rfl rfl, (arranged _ _ _ ?_).1⟩
  exact List.forall_mem_cons.mpr ⟨numbers, List.forall_mem_singleton.mpr texts⟩

end DocQuery
