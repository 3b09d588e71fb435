/-
**Walks through the pages of results.**

* `Partitions`: pages cut the results from a place on into parts of a size, of which only the last
  one may be smaller and only the last one comes without a token;
* `exists_walkPages`: the pages from a place on, by induction on the results that are left;
* `walk_partitions`: every walk ends, wherever its token leads, and partitions the results.
-/

import DocQuery.Proofs.Paging.Page
import Mathlib.Algebra.Order.Floor.Div

namespace DocQuery

variable {α : Type}

/-- Pages cut the results from a place on into parts of a size. -/
structure Partitions (results : List α) (start size : Nat) (pages : List (Page α)) : Prop where
  count : pages.length = max 1 ((results.length - start) ⌈/⌉ size)
  full : ∀ page ∈ pages.dropLast, page.items.length = size ∧ page.next.isSome
  ends : ∀ page ∈ pages.getLast?, page.next = none
  joined : pages.flatMap Page.items = results.drop start
  /-- Behind the results there is one page, without items. -/
  beyond : results.length ≤ start → pages.map Page.items = [[]]

/-! ### Numbers of pages -/

theorem pageCount_of_le {left size : Nat} (positive : 0 < size) (fits : left ≤ size) :
    max 1 (left ⌈/⌉ size) = 1 := by
  refine Nat.max_eq_left ((ceilDiv_le_iff_le_mul positive).mpr ?_)
  rwa [Nat.mul_one]

theorem pageCount_of_lt {left size : Nat} (positive : 0 < size) (more : size < left) :
    max 1 (left ⌈/⌉ size) = max 1 ((left - size) ⌈/⌉ size) + 1 := by
  have whole : left ⌈/⌉ size = (left - size) ⌈/⌉ size + 1 := by
    rw [Nat.ceilDiv_eq_add_pred_div, Nat.ceilDiv_eq_add_pred_div, ← Nat.add_div_right _ positive]
    congr 1
    omega
  have some : 0 < (left - size) ⌈/⌉ size := by
    rw [Nat.ceilDiv_eq_add_pred_div]
    exact Nat.div_pos (by omega) positive
  omega

/-- There is at most one page more than there are results left. -/
theorem pageCount_le {size : Nat} (positive : 0 < size) (left : Nat) :
    max 1 (left ⌈/⌉ size) ≤ left + 1 := by
  have few : left ⌈/⌉ size ≤ left :=
    (ceilDiv_le_iff_le_mul positive).mpr (Nat.le_mul_of_pos_left left positive)
  omega

/-! ### Pages one after the other -/

section

variable {results : List α} {start size : Nat} {restarted : Bool} {token : Option String}

/-- The last page holds what is left. -/
theorem partitions_singleton (positive : 0 < size) (fits : results.length ≤ start + size) :
    Partitions results start size [pageFrom results size start restarted] := by
  have left : (results.drop start).length ≤ size := by
    rw [List.length_drop]
    omega
  rw [pageFrom_eq, List.take_of_length_le left, if_neg (by omega)]
  refine ⟨?_, fun _ member => absurd member List.not_mem_nil, ?_, List.flatMap_singleton .., ?_⟩
  · rw [pageCount_of_le positive (by omega), List.length_singleton]
  · rintro _ ⟨⟩
    rfl
  · intro behind
    rw [List.map_singleton, List.drop_of_length_le behind]

/-- A page with a token is full, and the others follow. -/
theorem Partitions.cons (positive : 0 < size) (more : start + size < results.length)
    {pages : List (Page α)} (partitions : Partitions results (start + size) size pages) :
    Partitions results start size (pageFrom results size start restarted :: pages) := by
  have some : pages ≠ [] := by
    rintro rfl
    have count := partitions.count
    rw [List.length_nil] at count
    omega
  rw [pageFrom_eq, if_pos more]
  refine ⟨?_, ?_, ?_, ?_, fun behind => by omega⟩
  · have whole := pageCount_of_lt positive (show size < results.length - start by omega)
    rw [List.length_cons, partitions.count, whole, Nat.sub_add_eq]
  · rw [List.dropLast_cons_of_ne_nil some, List.forall_mem_cons]
    refine ⟨⟨?_, rfl⟩, partitions.full⟩
    rw [List.length_take, List.length_drop]
    omega
  · rw [List.getLast?_cons_of_ne_nil some]
    exact partitions.ends
  · rw [List.flatMap_cons, partitions.joined, ← List.drop_drop]
    exact List.take_append_drop ..

/-- The pages from a place on partition the results from there, and are found by as many steps. -/
theorem exists_walkPages (positive : 0 < size)
    (short : results.length < power 10 maxIntegerDigits)
    (isPage : page results size token = pageFrom results size start restarted) :
    ∃ pages, (∀ limit, pages.length ≤ limit → walkPages results size limit token = pages) ∧
      Partitions results start size pages := by
  -- The results that are left get fewer with each page.
  induction left : results.length - start using Nat.strongRecOn
    generalizing start restarted token with
  | _ left ih =>
  subst left
  have isNext : (page results size token).next =
      if start + size < results.length then some (continuationToken (start + size : Nat))
        else none := by
    rw [isPage, pageFrom_eq]
  by_cases more : start + size < results.length
  · have found := startOf?_continuationToken (Nat.lt_trans more short)
    have isPage' : page results size (some (continuationToken (start + size : Nat))) =
        pageFrom results size (start + size : Nat) false := by
      rw [page, found]
      rfl
    obtain ⟨pages, walked, partitions⟩ := ih _ (by omega) isPage' rfl
    rw [if_pos more] at isNext
    refine ⟨pageFrom results size start restarted :: pages, fun limit enough => ?_,
      partitions.cons positive more⟩
    obtain ⟨limit, rfl⟩ := Nat.exists_eq_succ_of_ne_zero (Nat.ne_zero_of_lt enough)
    rw [walkPages, isNext, isPage]
    exact congrArg _ (walked limit (Nat.le_of_succ_le_succ enough))
  · rw [if_neg more] at isNext
    refine ⟨[pageFrom results size start restarted], fun limit enough => ?_,
      partitions_singleton positive (Nat.not_lt.mp more)⟩
    obtain ⟨limit, rfl⟩ := Nat.exists_eq_succ_of_ne_zero (Nat.ne_zero_of_lt enough)
    rw [walkPages, isNext, isPage]

end

theorem continuationOffset?_empty : continuationOffset? "" = none := by decide +kernel

/-- A page begins where its token leads, and with the first result if that is nowhere. -/
theorem getD_startOf? (token : Option String) :
    (startOf? token).getD 0 = (token.bind continuationOffset?).getD 0 := by
  cases token with
  | none => rfl
  | some text =>
    rw [startOf?, Option.bind_some]
    split
    · next empty => rw [String.isEmpty_iff.mp empty, continuationOffset?_empty]; rfl
    · rfl

/-- **A walk through the pages partitions the results**, whatever size is asked for and whatever the
token is that it begins with. It begins where the token leads, and with the first result if the
token cannot be read, and it ends after as many pages as it takes. No list in memory exceeds the
bound on the number of results, which is there because the place in a token is an integer in a
text. -/
theorem walk_partitions (results : List α) {default : Int} (positive : 0 < default)
    (requested : Option Int) (token : Option String)
    (short : results.length < power 10 maxIntegerDigits) :
    ∃ pages, walk results (effectiveSize default requested) token = pages ∧
      (∀ limit, pages.length ≤ limit →
        walkPages results (effectiveSize default requested) limit token = pages) ∧
      Partitions results ((token.bind continuationOffset?).getD 0)
        (effectiveSize default requested).toNat pages := by
  have room := effectiveSize_pos positive requested
  have isSize := Int.toNat_of_nonneg (Int.le_of_lt room)
  have isPage : page results (effectiveSize default requested).toNat token =
      pageFrom results (effectiveSize default requested).toNat
        ((token.bind continuationOffset?).getD 0) (startOf? token).isNone := by
    rw [page, getD_startOf?]
  obtain ⟨pages, walked, partitions⟩ := exists_walkPages (Int.lt_toNat.mpr room) short isPage
  rw [isSize] at walked
  refine ⟨pages, walked _ ?_, walked, partitions⟩
  rw [partitions.count]
  have few := pageCount_le (Int.lt_toNat.mpr room)
    (results.length - (token.bind continuationOffset?).getD 0)
  omega

/-- Three results on pages of two, from the second one on and from a token that cannot be read. -/
theorem walk_partitions_three :
    (0 : Int) < 100 ∧ [1, 2, 3].length < power 10 maxIntegerDigits ∧
    (∃ pages, walk [1, 2, 3] 2 (some (continuationToken 1)) = pages ∧
      Partitions [1, 2, 3] 1 2 pages) ∧
    ∃ pages, walk [1, 2, 3] 2 (some "?") = pages ∧ Partitions [1, 2, 3] 0 2 pages := by
  have positive : (0 : Int) < 100 := by decide
  have short : [1, 2, 3].length < power 10 maxIntegerDigits := by decide +kernel
  obtain ⟨pages, walked, -, partitions⟩ :=
    walk_partitions [1, 2, 3] positive (some 2) (some (continuationToken 1)) short
  obtain ⟨pages', walked', -, partitions'⟩ :=
    walk_partitions [1, 2, 3] positive (some 2) (some "?") short
  have second : continuationOffset? (continuationToken 1) = some 1 := by decide +kernel
  have nowhere : continuationOffset? "?" = none := by decide +kernel
  rw [Option.bind_some, second] at partitions
  rw [Option.bind_some, nowhere] at partitions'
  exact ⟨positive, short, ⟨pages, walked, partitions⟩, pages', walked', partitions'⟩

end DocQuery
