/-
**One page of results.**

* `page_of_startOf?`: a page holds the results from its place on, as many as fit, and a token if
  there are more behind it;
* `startOf?_continuationToken`: this token leads to the place behind the page;
* `effectiveSize_pos`: a page has room for a result.
-/

import DocQuery.Paging.Page
import DocQuery.Proofs.Paging.Continuation

namespace DocQuery

variable {α : Type}

/-- A page has room for a result, whatever size is asked for. -/
theorem effectiveSize_pos {default : Int} (positive : 0 < default) (requested : Option Int) :
    0 < effectiveSize default requested := by
  unfold effectiveSize
  split
  · split <;> assumption
  · exact positive

/-- A token leads to the place that it was made for. -/
theorem startOf?_continuationToken {offset : Nat} (short : offset < power 10 maxIntegerDigits) :
    startOf? (some (continuationToken offset)) = some offset := by
  have some : asciiBytes (continuationChars offset) ≠ [] := List.cons_ne_nil _ _
  have filled : (continuationToken offset).isEmpty = false := by
    refine Bool.eq_false_iff.mpr fun empty => ?_
    have noChars := congrArg String.toList (String.isEmpty_iff.mp empty)
    rw [continuationToken, String.toList_ofList, toList_continuationJson, String.toList_empty]
      at noChars
    exact encodeBase64_ne_nil some noChars
  rw [startOf?, filled, if_neg Bool.false_ne_true, continuationOffset?_continuationToken short]

/-- The results from a place on, as many as fit, and a token if there are more behind them. -/
theorem pageFrom_eq (results : List α) (start size : Nat) (restarted : Bool) :
    pageFrom results size start restarted =
      { items := (results.drop start).take size
        next := if start + size < results.length then some (continuationToken (start + size : Nat))
          else none
        restarted } := by
  unfold pageFrom slice
  by_cases more : start + size < results.length
  · have stop : min ((start : Int) + size) results.length = (start + size : Nat) := by omega
    have inside : ¬ ((start + size : Nat) : Int) < 0 := by omega
    have behind : ((start + size : Nat) : Int) < results.length := by omega
    simp only [stop, if_neg inside, if_pos behind, if_pos more, Int.toNat_natCast,
      List.drop_take, Nat.add_sub_cancel_left]
  · have stop : min ((start : Int) + size) results.length = results.length := by omega
    have inside : ¬ (results.length : Int) < 0 := by omega
    have all : (results.drop start).take size = results.drop start :=
      List.take_of_length_le (by simp; omega)
    simp only [stop, if_neg inside, if_neg more, Int.toNat_natCast, List.take_length, all,
      if_neg (Int.lt_irrefl _)]

theorem page_of_startOf? {token : Option String} {start : Nat}
    (isStart : startOf? token = some start) (results : List α) (size : Nat) :
    page results size token =
      { items := (results.drop start).take size
        next := if start + size < results.length then some (continuationToken (start + size : Nat))
          else none
        restarted := false } := by
  rw [page, isStart]
  exact pageFrom_eq results start size false

end DocQuery
