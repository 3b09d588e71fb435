/-
**Stable arrangements.**

* `TransitiveOn`: a comparison is transitive on some items. `TransitiveOn.lexicographic` is about
  two of them, of which the second decides where the first one does not;
* `StableArrangement`: the same items in ascending order, with those that tie in the order in which
  they stood;
* `StableArrangement.unique`: there is at most one;
* `stableArrangement_mergeSort`: sorting finds it, if the comparison is transitive on the items.
-/

namespace DocQuery

open Std (OrientedCmp TransCmp ReflCmp)

/-- A comparison is transitive on some items. If it is oriented too, then it is a weak order. -/
def TransitiveOn {α : Type} (order : α → α → Ordering) (items : List α) : Prop :=
  ∀ first ∈ items, ∀ second ∈ items, ∀ third ∈ items, (order first second).isLE →
    (order second third).isLE → (order first third).isLE

instance {α : Type} (order : α → α → Ordering) (items : List α) :
    Decidable (TransitiveOn order items) :=
  @List.decidableBAll _ _ (fun _ => @List.decidableBAll _ _ (fun _ => List.decidableBAll _ _) _) _

/-- The comparison of items that are known to be there is transitive without a condition. -/
theorem TransitiveOn.transCmp {α : Type} {order : α → α → Ordering} [OrientedCmp order]
    {items : List α} (transitive : TransitiveOn order items) :
    TransCmp fun left right : { item // item ∈ items } => order left.val right.val where
  eq_swap := fun {left right} => @OrientedCmp.eq_swap _ order _ left.val right.val
  isLE_trans := fun {first second third} =>
    transitive _ first.property _ second.property _ third.property

/-- Of two transitive comparisons the second may decide where the first one does not. -/
theorem TransitiveOn.lexicographic {α : Type} {order other : α → α → Ordering}
    [OrientedCmp order] [OrientedCmp other] {items : List α}
    (transitive : TransitiveOn order items) (transitive' : TransitiveOn other items) :
    TransitiveOn (fun left right => (order left right).then (other left right)) items := by
  intro first inFirst second inSecond third inThird
  have lawful := transitive.transCmp
  have lawful' := transitive'.transCmp
  exact @TransCmp.isLE_trans { item // item ∈ items }
    (compareLex (fun left right => order left.val right.val)
      fun left right => other left.val right.val)
    _ ⟨first, inFirst⟩ ⟨second, inSecond⟩ ⟨third, inThird⟩

/-- Whether an item ties with another one. -/
def tiesWith {α : Type} (order : α → α → Ordering) (item found : α) : Bool :=
  order item found == .eq

theorem tiesWith_iff {α : Type} {order : α → α → Ordering} {item found : α} :
    tiesWith order item found ↔ order item found = .eq := beq_iff_eq

/-- Items are arranged in ascending order, and those that tie stand as they did. -/
structure StableArrangement {α : Type} (order : α → α → Ordering) (items arranged : List α) :
    Prop where
  permutes : arranged.Perm items
  ascends : arranged.Pairwise fun left right => (order left right).isLE
  stable : ∀ item ∈ items,
    arranged.filter (tiesWith order item) = items.filter (tiesWith order item)

section Unique

variable {α : Type} {order : α → α → Ordering} [OrientedCmp order]

/-- **Ascending items are determined** by what they are and by how those that tie stand. -/
theorem eq_of_ascending {first second : List α} (permutes : first.Perm second)
    (ascends : first.Pairwise fun left right => (order left right).isLE)
    (ascends' : second.Pairwise fun left right => (order left right).isLE)
    (same : ∀ item ∈ first,
      first.filter (tiesWith order item) = second.filter (tiesWith order item)) :
    first = second := by
  induction first generalizing second with
  | nil => exact permutes.nil_eq
  | cons item more ih =>
    cases second with
    | nil => exact absurd permutes.eq_nil (List.cons_ne_nil item more)
    | cons other others =>
    obtain ⟨least, ascendsMore⟩ := List.pairwise_cons.mp ascends
    obtain ⟨least', ascendsOthers⟩ := List.pairwise_cons.mp ascends'
    have ties : order item other = .eq := by
      rcases List.mem_cons.mp (permutes.mem_iff.mpr List.mem_cons_self) with rfl | inMore
      · exact ReflCmp.compare_self
      rcases List.mem_cons.mp (permutes.mem_iff.mp List.mem_cons_self) with rfl | inOthers
      · exact ReflCmp.compare_self
      exact OrientedCmp.isLE_antisymm (least other inMore) (least' item inOthers)
    have head : item = other := by
      have begins := same item List.mem_cons_self
      rw [List.filter_cons_of_pos (tiesWith_iff.mpr ReflCmp.compare_self),
        List.filter_cons_of_pos (tiesWith_iff.mpr ties)] at begins
      exact (List.cons.inj begins).1
    subst head
    refine congrArg (item :: ·) (ih permutes.cons_inv ascendsMore ascendsOthers ?_)
    intro found member
    have whole := same found (List.mem_cons_of_mem item member)
    by_cases tied : tiesWith order found item
    · rw [List.filter_cons_of_pos tied, List.filter_cons_of_pos tied] at whole
      exact (List.cons.inj whole).2
    · rwa [List.filter_cons_of_neg tied, List.filter_cons_of_neg tied] at whole

/-- There is at most one stable arrangement. -/
theorem StableArrangement.unique {items arranged other : List α}
    (first : StableArrangement order items arranged)
    (second : StableArrangement order items other) : arranged = other := by
  refine eq_of_ascending (first.permutes.trans second.permutes.symm) first.ascends second.ascends
    fun item member => ?_
  have inItems := first.permutes.mem_iff.mp member
  exact (first.stable item inItems).trans (second.stable item inItems).symm

end Unique

/-! ### Sorting -/

/-- Sorting arranges items if the comparison is transitive on all there are. -/
theorem stableArrangement_of_transCmp {α : Type} (order : α → α → Ordering) [TransCmp order]
    (items : List α) :
    StableArrangement order items (items.mergeSort fun left right => (order left right).isLE) := by
  have trans : ∀ first second third, (order first second).isLE → (order second third).isLE →
      (order first third).isLE := fun _ _ _ => TransCmp.isLE_trans
  have total : ∀ left right, (order left right).isLE || (order right left).isLE := by
    intro left right
    rw [@OrientedCmp.eq_swap _ order _ left right]
    cases order right left <;> rfl
  have permutes := List.mergeSort_perm items fun left right => (order left right).isLE
  refine ⟨permutes, List.pairwise_mergeSort trans total items, fun item _ => ?_⟩
  -- What ties is in order already, so that sorting leaves it as it stands.
  have level : (items.filter (tiesWith order item)).Pairwise fun left right =>
      (order left right).isLE := by
    refine List.pairwise_of_forall_mem_list fun left inLeft right inRight => ?_
    have tiesLeft := tiesWith_iff.mp (List.mem_filter.mp inLeft).2
    have tiesRight := tiesWith_iff.mp (List.mem_filter.mp inRight).2
    rw [TransCmp.eq_trans (OrientedCmp.eq_symm tiesLeft) tiesRight]
    rfl
  have kept := (List.sublist_mergeSort trans total level List.filter_sublist).filter
    (tiesWith order item)
  rw [List.filter_filter] at kept
  simp only [Bool.and_self] at kept
  exact (kept.eq_of_length (permutes.filter _).length_eq.symm).symm

/-- What is arranged by its images has arranged images. -/
theorem StableArrangement.map {α β : Type} {order : α → α → Ordering} {image : β → α}
    {items arranged : List β}
    (arranges : StableArrangement (fun left right => order (image left) (image right)) items
      arranged) :
    StableArrangement order (items.map image) (arranged.map image) := by
  refine ⟨arranges.permutes.map image, ?_, fun item member => ?_⟩
  · rw [List.pairwise_map]
    exact arranges.ascends
  obtain ⟨origin, isOrigin, rfl⟩ := List.mem_map.mp member
  rw [List.filter_map, List.filter_map]
  exact congrArg (List.map image) (arranges.stable origin isOrigin)

/-- **Sorting arranges items**, those that tie as they stood, if the comparison is transitive on
them. -/
theorem stableArrangement_mergeSort {α : Type} {order : α → α → Ordering} [OrientedCmp order]
    {items : List α} (transitive : TransitiveOn order items) :
    StableArrangement order items (items.mergeSort fun left right => (order left right).isLE) := by
  let within (left right : { item // item ∈ items }) : Ordering := order left.val right.val
  have lawful : TransCmp within := transitive.transCmp
  have arranges := (stableArrangement_of_transCmp within items.attach).map
  have sorted := @List.map_mergeSort _ _ (fun left right => (within left right).isLE)
    (fun left right => (order left right).isLE) Subtype.val items.attach fun _ _ _ _ => rfl
  rwa [sorted, List.attach_map_subtype_val] at arranges

end DocQuery
