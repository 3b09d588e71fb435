/-
**Failures point at the first impossible token.**

* `closed`, `positions`: tokens, and their positions, with the end behind the last one;
* `FirstImpossible`: an index is that of the first token, or of the end, that no query has there;
* `Query.ofTokens_firstImpossible`: where the tokens of a text form no query, the failure has the
  position of such a token, and of no other.
-/

import DocQuery.Proofs.Query.Layout
import DocQuery.Proofs.Query.Lookahead

namespace DocQuery

/-- Tokens with the end behind the last one. -/
def closed (tokens : List Token) : List (Option Token) := tokens.map some ++ [none]

/-- The positions of tokens, and of the end behind the last one. -/
def positions (tokens : List Token) (stop : Position) : List Position :=
  tokens.map Token.position ++ [stop]

/-- An index is the one of a position, and that of the first of some tokens, or of the end, that is
impossible in a query: what is in front of it is a proper beginning of tokens that form a query, and
no tokens that form one begin with it and the token itself. -/
structure FirstImpossible (tokens : List Token) (stop : Position) (position : Option Position)
    (index : Nat) : Prop where
  points : ∀ other, (positions tokens stop)[other]? = position ↔ other = index
  possible : ∃ accepted, (∀ stop source, ∃ found, Query.ofTokens accepted stop source = .ok found) ∧
    (closed tokens).take index <+: closed accepted ∧ (closed tokens).take index ≠ closed accepted
  impossible : ∀ accepted stop source found, Query.ofTokens accepted stop source = .ok found →
    ¬ (closed tokens).take (index + 1) <+: closed accepted

theorem take_closed (first rest : List Token) :
    (closed (first ++ rest)).take first.length = first.map some := by
  simp [closed]

/-- What begins like some tokens up to a place does so up to the first of them behind it. -/
theorem exists_of_prefix {first rest accepted : List Token}
    (begins : (closed (first ++ rest)).take (first.length + 1) <+: closed accepted) :
    ∃ other, accepted = first ++ other ∧ other.head? = rest.head? := by
  -- The first tokens are taken off both lists, down to the one behind them or the end.
  induction first generalizing accepted with
  | nil =>
    refine ⟨accepted, rfl, ?_⟩
    cases rest <;> cases accepted <;> simp_all [closed]
  | cons token first ih =>
    cases accepted with
    | nil => simp [closed] at begins
    | cons token' accepted =>
      obtain ⟨rfl, further⟩ : token = token' ∧
          (closed (first ++ rest)).take (first.length + 1) <+: closed accepted := by
        simpa [closed] using begins
      obtain ⟨other, rfl, same⟩ := ih further
      exact ⟨other, rfl, same⟩

/-- No two tokens of a text stand at one position, nor does one stand at its end. -/
theorem Laid.nodup {here : List Char} {start stop : Position} {tokens : List Token}
    (laid : Laid here start tokens stop) : (positions tokens stop).Nodup := by
  have behind (token : Token) (member : token ∈ tokens) :
      token.position.offset < stop.offset := by
    rw [laid.stop_eq, start.after_offset]
    have inside := laid.within token member
    omega
  rw [positions, List.nodup_append]
  refine ⟨List.pairwise_map.mpr laid.distinct, List.nodup_singleton stop, ?_⟩
  rintro _ isToken _ isStop rfl
  obtain ⟨token, member, same⟩ := List.mem_map.mp isToken
  have less := behind token member
  rw [same, List.mem_singleton.mp isStop] at less
  exact Nat.lt_irrefl _ less

namespace Query

theorem ofTokens_eq_error {tokens : List Token} {stop : Position} {source : Option (List Char)}
    {error : SyntaxError} (refused : ofTokens tokens stop source = .error error) :
    ∃ failure, Parser.query ⟨stop, source⟩ tokens = .error failure ∧
      error.position = some failure.position := by
  rw [ofTokens] at refused
  split at refused
  · cases refused
  · next failure failed =>
    cases refused
    exact ⟨failure, failed, rfl⟩

/-- **The tokens of a text that form no query are refused at the first of them that is impossible in
a query.** -/
theorem ofTokens_firstImpossible {text : List Char} {tokens : List Token} {stop : Position}
    (scanned : scan text = .ok (tokens, stop)) {source : Option (List Char)} {error : SyntaxError}
    (refused : ofTokens tokens stop source = .error error) :
    ∃ index, FirstImpossible tokens stop error.position index := by
  obtain ⟨failure, failed, place⟩ := ofTokens_eq_error refused
  obtain ⟨first, rest, fault, rfl, rfl, ⟨more, phrase, derives⟩, never⟩ :=
    Parser.query_fails_first _ failed
  have nodup := (scanFrom_iff_laid.mp scanned).nodup
  have here : (positions (first ++ rest) stop)[first.length]? = error.position := by
    rw [place]
    cases rest <;> simp [positions, Parser.failure]
  refine ⟨first.length, ⟨fun other => ⟨fun there => ?_, ?_⟩, ?_, ?_⟩⟩
  · have inside : first.length < (positions (first ++ rest) stop).length := by
      simp [positions]
    exact ((List.getElem?_inj inside nodup).mp (here.trans there.symm)).symm
  · rintro rfl
    exact here
  · refine ⟨first ++ more, fun stop' source' => ?_, ?_⟩
    · exact ⟨_, ofTokens_eq_ok.mpr ⟨phrase.val, derives, phrase.property, rfl⟩⟩
    · rw [take_closed, closed, List.map_append, List.append_assoc]
      exact ⟨List.prefix_append _ _, by simp⟩
  · intro accepted stop' source' found isQuery begins
    obtain ⟨other, rfl, same⟩ := exists_of_prefix begins
    obtain ⟨phrase', derives', nonnegative, -⟩ := ofTokens_eq_ok.mp isQuery
    exact never other same ⟨⟨phrase', nonnegative⟩, derives'⟩

/-- A range without its second bound, inside parentheses: the eleventh token is impossible. -/
theorem ofTokens_firstImpossible_halfRange : ∃ tokens stop error,
    scan "SELECT * FROM c WHERE NOT (x BETWEEN 1 OR 2)".toList = .ok (tokens, stop) ∧
      ofTokens tokens stop none = .error error ∧
      FirstImpossible tokens stop error.position 10 := by
  obtain ⟨⟨tokens, stop⟩, scanned, fails⟩ := exists_of_any
    (show (scan "SELECT * FROM c WHERE NOT (x BETWEEN 1 OR 2)".toList).toOption.any (fun found =>
      match ofTokens found.1 found.2 none with
      | .ok _ => false
      | .error error => (positions found.1 found.2)[10]? = error.position) by decide +kernel)
  dsimp only at fails
  split at fails
  · cases fails
  · next error refused =>
    obtain ⟨index, first⟩ := ofTokens_firstImpossible scanned refused
    obtain rfl : 10 = index := (first.points 10).mp (of_decide_eq_true fails)
    exact ⟨tokens, stop, error, scanned, refused, first⟩

end Query

end DocQuery
