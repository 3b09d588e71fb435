/-
**Pages of a stored query.**

A client asks for the pages of a query one after another, each with the token that came with the one
before it. Nothing is kept between two pages: each of them is cut from a new answer, while other
calls may come in between.

* `Store.fetch`: the pages that a client gets;
* `Consistent.perform_query`: one page is cut from the answer on the documents that are there;
* `Store.Reachable.fetch_from`: the pages from a place on are the results from there;
* `Store.fetch_eq`: all pages together are the answer, unless calls disturb the container.
-/

import DocQuery.Proofs.Paging.Page
import DocQuery.Proofs.Store.Run

namespace DocQuery

/-- What happens before a client asks for a page: other calls, and then it is some time. -/
structure Pause where
  calls : List Call
  now : Int

/-- The pages that a client gets who follows the tokens until there is none, if that takes no more
pages than the limit and each of them is answered. -/
def Store.fetch (settings : QuerySettings) (database container : String) :
    Nat → (Nat → Pause) → PageQuery → Store → Option (List QueryResult)
  | 0, _, _, _ => none
  | limit + 1, pauses, asked, store =>
    let paused := store.run (pauses 0).calls
    let call : Call := ⟨settings, (pauses 0).now, .query database container asked⟩
    match paused.answer call with
    | .ok (.page found) =>
      match found.continuation with
      | none => some [found]
      | some token =>
        (found :: ·) <$> fetch settings database container limit (fun count => pauses (count + 1))
          { asked with token := some token } (paused.next call)
    | _ => none

section

variable {store : Store} {settings : QuerySettings} {database container : String}
  {documents : Table Fields} {asked : PageQuery} {query : Query} {results : List Fields}

/-- The listing of a container holds its documents in their order. -/
theorem Consistent.contents?_of_listDocuments (consistent : Consistent store) {now : Int}
    {listing : Listing Fields}
    (listed : store.answer ⟨settings, now, .listDocuments database container⟩ =
      .ok (.documents listing)) :
    ∃ documents, store.contents? database container = some documents ∧
      listing.items = documents.map Prod.snd := by
  obtain ⟨result, step⟩ := consistent.step_of_answer listed
  cases step with
  | listDocuments shelf => exact ⟨shelf.documents, shelf.contents?_eq, rfl⟩

/-- A page of results from a container that the store gave an identifier. -/
def QueryResult.ofPage (rid : String) (found : Page Fields) : QueryResult :=
  ⟨.ofItems rid found.items, found.next⟩

/-- A page is cut from the answer on the documents that are there. -/
theorem Consistent.perform_query (consistent : Consistent store)
    (held : store.contents? database container = some documents)
    (isQuery : Query.ofJson asked.text = .ok query)
    (answered : query.execute settings .standard asked.parameters (documents.map Prod.snd) =
      .ok results) (token : Option String) (now : Int) :
    ∃ rid found, store.perform settings now (.query database container { asked with token }) =
        (.ok (.page found), store) ∧
      found =
        .ofPage rid (page results (effectiveSize settings.pageSize.val asked.size) token) := by
  obtain ⟨own, rfl⟩ := consistent.shelf_of_contents? held
  have same (shelf : Shelf store database container) : shelf.documents = own.documents :=
    Option.some.inj (shelf.contents?_eq.symm.trans held)
  obtain ⟨outcome, result, performed, step⟩ | ⟨cause, performed, fails⟩ :=
    consistent.perform_cases settings now (.query database container { asked with token })
  · cases step with
    | @query _ _ _ _ _ found shelf isQuery' answered' isPage =>
      cases isQuery.symm.trans isQuery'
      rw [same shelf] at answered'
      cases answered.symm.trans answered'
      exact ⟨_, _, performed, congrArg (QueryResult.ofPage _) isPage⟩
  · exfalso
    cases fails with
    | databaseMissing opens absent =>
      cases opens
      exact own.databases_ne_none consistent absent
    | containerMissing opens isContainers absent =>
      cases opens
      cases own.isContainers.symm.trans isContainers
      cases own.isOwner.symm.trans absent
    | collection _ _ wants _ | documentMissing _ _ wants _ _ => cases wants
    | refused _ _ submits _ => cases submits
    | unreadable refused => cases isQuery.symm.trans refused
    | unanswered shelf isQuery' refused =>
      cases isQuery.symm.trans isQuery'
      rw [same shelf] at refused
      cases answered.symm.trans refused

/-- A client who gets a page without a token has got all pages, and else goes on. -/
theorem Store.fetch_succ {pauses : Nat → Pause} {token : Option String} {result : QueryResult}
    {after : Store}
    (performed : (store.run (pauses 0).calls).perform settings (pauses 0).now
      (.query database container { asked with token }) = (.ok (.page result), after))
    (limit : Nat) :
    store.fetch settings database container (limit + 1) pauses { asked with token } =
      match result.continuation with
      | none => some [result]
      | some token =>
        (result :: ·) <$> after.fetch settings database container limit
          (fun count => pauses (count + 1)) { asked with token := some token } := by
  simp only [fetch, answer, next, performed]

theorem exists_effectiveSize (default : { count : Nat // 0 < count }) (requested : Option Int) :
    ∃ size : Nat, 0 < size ∧ effectiveSize default.val requested = size := by
  have positive := effectiveSize_pos (Int.natCast_pos.mpr default.property) requested
  exact ⟨_, Int.lt_toNat.mpr positive, (Int.toNat_of_nonneg (Int.le_of_lt positive)).symm⟩

/-- The pages from a place on are the results from there, and each of them is counted. -/
theorem Store.Reachable.fetch_from (reachable : store.Reachable)
    (held : store.contents? database container = some documents)
    (isQuery : Query.ofJson asked.text = .ok query)
    (answered : query.execute settings .standard asked.parameters (documents.map Prod.snd) =
      .ok results) (short : results.length < power 10 maxIntegerDigits) {pauses : Nat → Pause}
    (spared : ∀ count, ∀ call ∈ (pauses count).calls,
      ¬ call.operation.Disturbs database container)
    {token : Option String} {start : Nat} (isStart : startOf? token = some start) :
    ∃ pages, (∀ limit, results.length - start < limit →
        store.fetch settings database container limit pauses { asked with token } = some pages) ∧
      pages.flatMap (fun page => page.listing.items) = results.drop start ∧
      ∀ page ∈ pages, page.listing.count = page.listing.items.length := by
  obtain ⟨size, positive, isSize⟩ := exists_effectiveSize settings.pageSize asked.size
  -- The results that are left get fewer with each page.
  induction remaining : results.length - start using Nat.strongRecOn
    generalizing store pauses token start with
  | _ remaining ih =>
  subst remaining
  have paused := reachable.run (pauses 0).calls
  have held' := reachable.contents?_run held (spared 0)
  obtain ⟨rid, found, performed, isPage⟩ :=
    paused.consistent.perform_query held' isQuery answered token (pauses 0).now
  have fetched (limit : Nat) := Store.fetch_succ performed limit
  rw [isSize, page_of_startOf? isStart] at isPage
  have isItems : found.listing.items = (results.drop start).take size := isPage ▸ rfl
  have counted : found.listing.count = found.listing.items.length := isPage ▸ rfl
  by_cases more : start + size < results.length
  · have isNext := startOf?_continuationToken (Nat.lt_trans more short)
    obtain ⟨pages, fetched', joined, counted'⟩ :=
      ih _ (by omega) paused held' (fun count => spared (count + 1)) isNext rfl
    have goesOn : found.continuation = some (continuationToken (start + size : Nat)) :=
      isPage ▸ if_pos more
    rw [goesOn] at fetched
    refine ⟨found :: pages, fun limit some => ?_, ?_, List.forall_mem_cons.mpr ⟨counted, counted'⟩⟩
    · obtain ⟨limit, rfl⟩ := Nat.exists_eq_succ_of_ne_zero (Nat.ne_zero_of_lt some)
      exact (fetched limit).trans (congrArg (Option.map _) (fetched' limit (by omega)))
    · rw [List.flatMap_cons, joined, ← List.drop_drop, isItems]
      exact List.take_append_drop ..
  · have ends : found.continuation = none := isPage ▸ if_neg more
    rw [ends] at fetched
    refine ⟨[found], fun limit some => ?_, ?_, List.forall_mem_singleton.mpr counted⟩
    · obtain ⟨limit, rfl⟩ := Nat.exists_eq_succ_of_ne_zero (Nat.ne_zero_of_lt some)
      exact fetched limit
    · rw [List.flatMap_singleton, isItems]
      exact List.take_of_length_le (by rw [List.length_drop]; omega)

end

namespace Store

/-- **Paging through a stored query loses and repeats nothing.** A client asks for a page without a
token and then follows the tokens. Before each page there may be any other calls that leave the
container alone. Then the client is done after no more pages than there are results and one, and
the pages together are the answer to the query on the documents in the order in which they are
listed. No list in memory exceeds the bound on the number of results. It is there because the place
in a token is an integer in a text, and one with more digits is not read. -/
theorem fetch_eq {store : Store} (reachable : store.Reachable) {settings : QuerySettings}
    {database container : String} {now : Int} {listing : Listing Fields}
    (listed : store.answer ⟨settings, now, .listDocuments database container⟩ =
      .ok (.documents listing))
    {asked : PageQuery} {query : Query} (isQuery : Query.ofJson asked.text = .ok query)
    {results : List Fields}
    (answered : query.execute settings .standard asked.parameters listing.items = .ok results)
    (short : results.length < power 10 maxIntegerDigits) {pauses : Nat → Pause}
    (spared : ∀ count, ∀ call ∈ (pauses count).calls,
      ¬ call.operation.Disturbs database container) :
    ∃ pages, (∀ limit, results.length < limit →
        store.fetch settings database container limit pauses { asked with token := none } =
          some pages) ∧
      pages.flatMap (fun page => page.listing.items) = results ∧
      ∀ page ∈ pages, page.listing.count = page.listing.items.length := by
  obtain ⟨documents, held, isItems⟩ := reachable.consistent.contents?_of_listDocuments listed
  rw [isItems] at answered
  have isStart : startOf? none = some 0 := rfl
  exact reachable.fetch_from held isQuery answered short spared isStart

/-- A store that holds two documents in a container, and another container. -/
def twoDocuments : Store :=
  .after [.createDatabase "d", .createContainer "d" "c", .createContainer "d" "e",
    .createDocument "d" "c" (.object [("id", .int 1)]),
    .createDocument "d" "c" (.object [("id", .int 2)])]

/-- A query that is answered with one document on a page. -/
def oneByOne : PageQuery := ⟨.string "SELECT c.id FROM c", .object [], some 1, none⟩

/-- Each time a document is written to the other container. -/
def writeElsewhere : Nat → Pause :=
  fun _ => ⟨[⟨{}, 0, .upsertDocument "d" "e" (.object [("id", .int 3)])⟩], 0⟩

/-- Two documents on a page each, while another one is written to the other container. -/
theorem fetch_eq_oneByOne :
    ∃ listing query results pages,
      twoDocuments.answer ⟨{}, 0, .listDocuments "d" "c"⟩ = .ok (.documents listing) ∧
      Query.ofJson oneByOne.text = .ok query ∧
      query.execute {} .standard oneByOne.parameters listing.items = .ok results ∧
      results.length = 2 ∧
      twoDocuments.fetch {} "d" "c" 3 writeElsewhere oneByOne = some pages ∧
      pages.flatMap (fun page => page.listing.items) = results := by
  obtain ⟨listing, listed⟩ : ∃ listing,
      twoDocuments.answer ⟨{}, 0, .listDocuments "d" "c"⟩ = .ok (.documents listing) := ⟨_, rfl⟩
  have holds : ((Query.ofJson oneByOne.text).toOption.any fun query =>
      (query.execute {} .standard oneByOne.parameters listing.items).toOption.any
        fun results => results.length = 2) := by
    cases listed
    decide +kernel
  obtain ⟨query, isQuery, holds⟩ := exists_of_any holds
  obtain ⟨results, answered, holds⟩ := exists_of_any holds
  have two := of_decide_eq_true holds
  have short : results.length < power 10 maxIntegerDigits := by
    rw [two]
    decide +kernel
  have spared : ∀ count, ∀ call ∈ (writeElsewhere count).calls,
      ¬ call.operation.Disturbs "d" "c" := by
    intro count call member
    cases List.mem_singleton.mp member
    exact fun disturbs => absurd disturbs.2 (by decide)
  obtain ⟨pages, fetched, joined, -⟩ :=
    fetch_eq (reachable_after _) listed isQuery answered short spared
  exact ⟨listing, query, results, pages, listed, isQuery, answered, two, fetched 3 (by omega),
    joined⟩

end Store

end DocQuery
