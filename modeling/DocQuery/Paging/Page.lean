/-
**Pages of results.**

* `page`: one page of results, and the token for the next one;
* `walk`: the pages that the tokens lead to, one after the other.

A token that cannot be read leads to the first page, and the page says so.
-/

import DocQuery.Paging.Continuation

namespace DocQuery

/-- A page of results. -/
structure Page (α : Type) where
  items : List α
  /-- The token for the next page, if there is one. -/
  next : Option String
  /-- Whether the page is the first one because a token could not be read. -/
  restarted : Bool

/-- The size of a page: the one that is asked for if it is positive, and else the default. -/
def effectiveSize (default : Int) (requested : Option Int) : Int :=
  match requested with
  | some size => if 0 < size then size else default
  | none => default

/-- Where the page for a token begins. An empty token is none, and for one that cannot be read there
is no place. -/
def startOf? (token : Option String) : Option Nat :=
  match token with
  | some text => if text.isEmpty then some 0 else continuationOffset? text
  | none => some 0

/-- The results from one place up to another, which if negative is counted from the end. -/
def slice {α : Type} (results : List α) (start : Nat) (stop : Int) : List α :=
  (results.take (if stop < 0 then stop + results.length else stop).toNat).drop start

/-- The page that begins at a place. -/
def pageFrom {α : Type} (results : List α) (size : Int) (start : Nat) (restarted : Bool) : Page α :=
  let stop : Int := min (start + size) results.length
  { items := slice results start stop
    next := if stop < results.length then some (continuationToken stop) else none
    restarted }

/-- The page for a token. -/
def page {α : Type} (results : List α) (size : Int) (token : Option String) : Page α :=
  pageFrom results size ((startOf? token).getD 0) (startOf? token).isNone

/-- The warning that a page comes with. -/
def Page.warning? {α : Type} (p : Page α) : Option String :=
  if p.restarted then some "Invalid continuation token, restarting from the first page" else none

/-- At most so many pages, each found by the token of the one before it. -/
def walkPages {α : Type} (results : List α) (size : Int) : Nat → Option String → List (Page α)
  | 0, _ => []
  | fuel + 1, token =>
    let first := page results size token
    match first.next with
    | some next => first :: walkPages results size fuel (some next)
    | none => [first]

/-- The pages from a token on. There is at least one result on every page but the last. -/
def walk {α : Type} (results : List α) (size : Int) (token : Option String) : List (Page α) :=
  walkPages results size (results.length + 1) token

end DocQuery
