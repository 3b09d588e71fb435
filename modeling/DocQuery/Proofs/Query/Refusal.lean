/-
**Written infinite numbers are refused.**

An infinite number is written as a name or a minus sign, and then a point and a digit. No token
begins at such a minus sign, and in what derives a name stands behind each point.

* `NamesFollow`: a name stands behind each point. `QueryPhrase.namesFollow` says so of all that
  derives;
* `Breaks`: a text has no tokens, or a point without a name behind it, whatever stands around it;
* `breaks_expr`: the written form of an expression breaks if one of its constants is infinite;
* `Query.read_text`: the written form of a query that was read is read as the same query if its
  constants are finite, and refused if one is infinite.
-/

import DocQuery.Proofs.Query.Points
import DocQuery.Proofs.Query.Rendering

namespace DocQuery

open Grammar

/-! ### Points and names -/

/-- A name stands behind each point. -/
def NamesFollow : List TokenKind → Prop
  | [] => True
  | kind :: more =>
    (IsSymbol .dot kind → ∃ next ∈ more.head?, IsSegment next) ∧ NamesFollow more

section

variable {kind : TokenKind} {kinds more : List TokenKind}

theorem NamesFollow.append (follow : NamesFollow kinds) (follow' : NamesFollow more) :
    NamesFollow (kinds ++ more) := by
  induction kinds with
  | nil => exact follow'
  | cons kind kinds ih =>
    refine ⟨fun dot => ?_, ih follow.2⟩
    obtain ⟨next, first, segment⟩ := follow.1 dot
    have still : (kinds ++ more).head? = some next := by
      rw [List.head?_append, show kinds.head? = some next from first]
      rfl
    exact ⟨next, still, segment⟩

theorem NamesFollow.right (follow : NamesFollow (kinds ++ more)) : NamesFollow more := by
  induction kinds with
  | nil => exact follow
  | cons kind kinds ih => exact ih follow.2

theorem NamesFollow.cons (other : ¬ IsSymbol .dot kind) (follow : NamesFollow more) :
    NamesFollow (kind :: more) :=
  ⟨fun dot => absurd dot other, follow⟩

end

namespace Grammar

theorem Path.namesFollow (path : Path) : NamesFollow (path.tokens.map Token.kind) := by
  obtain ⟨first, segments⟩ := path
  refine .cons (Pointless.noDot first.fits) ?_
  show NamesFollow ((segments.flatMap Segment.tokens).map Token.kind)
  induction segments with
  | nil => trivial
  | cons segment more ih =>
    exact ⟨fun _ => ⟨segment.name.kind, rfl, segment.fits⟩, .cons segment.fits.noDot ih⟩

theorem Carries.namesFollow {tokens : List Token} {paths : List Path}
    (carries : Carries tokens paths) : NamesFollow (tokens.map Token.kind) := by
  induction carries with
  | nil => trivial
  | path path _ ih =>
    rw [List.map_append]
    exact path.namesFollow.append ih
  | other noDot _ ih => exact .cons noDot ih

/-- **A name stands behind each point in what derives.** -/
theorem QueryPhrase.namesFollow (phrase : QueryPhrase) :
    NamesFollow (phrase.tokens.map Token.kind) :=
  phrase.carries.namesFollow

end Grammar

/-! ### Texts that break -/

/-- A text has no tokens, or a point without a name behind it, whatever it is delimited by. -/
def Breaks (text : String) : Prop :=
  ∀ rest pieces, Delimited rest → pieces? (text.toList ++ rest) = some pieces →
    ¬ NamesFollow (pieces.map Piece.kind)

section

variable {text text' : String}

theorem Breaks.before (breaks : Breaks text)
    (sets : ∀ rest, Delimited rest → Delimited (text'.toList ++ rest)) :
    Breaks (text ++ text') := by
  intro rest pieces delimited found
  rw [String.toList_append, List.append_assoc] at found
  exact breaks _ pieces (sets rest delimited) found

theorem Breaks.behind {behind : List Char → Prop} {reading : Reading}
    (renders : Renders behind text reading) (breaks : Breaks text')
    (sets : ∀ rest, Delimited rest → behind (text'.toList ++ rest)) : Breaks (text ++ text') := by
  obtain ⟨read, reads, -⟩ := renders
  intro rest pieces delimited found follow
  rw [String.toList_append, List.append_assoc, reads _ (sets rest delimited)] at found
  obtain ⟨left, isLeft, rfl⟩ := Option.map_eq_some_iff.mp found
  rw [List.map_append] at follow
  exact breaks rest left delimited isLeft follow.right

end

/-- A positive infinite number breaks at its point. -/
theorem breaks_infinity : Breaks "Infinity.0" := by
  have name := reads_name (show IsName "Infinity".toList by decide +kernel)
  have zero := reads_natural (show (0 : Nat) < power 10 maxIntegerDigits from
    power_pos (by decide) _)
  have reads := (name.append reads_dot fun rest _ => endsName_dot rest).append zero
    fun _ _ => trivial
  intro rest pieces delimited found follow
  rw [show "Infinity.0".toList = "Infinity".toList ++ ['.'] ++ (toString 0).toList from rfl,
    reads rest delimited] at found
  obtain ⟨left, -, rfl⟩ := Option.map_eq_some_iff.mp found
  obtain ⟨next, first, segment⟩ := follow.2.1 ⟨_, rfl⟩
  cases first
  cases segment

/-- A negative infinite number breaks at its sign. -/
theorem breaks_negativeInfinity : Breaks "-Infinity.0" := by
  intro rest pieces _ found
  rw [show "-Infinity.0".toList = '-' :: "Infinity.0".toList from rfl, List.cons_append,
    pieces?_fault rfl (show lexeme '-' ("Infinity.0".toList ++ rest) = .error (.unexpected '-')
      from rfl)] at found
  cases found

/-! ### Expressions -/

/-- Two texts side by side break if one of their constants is infinite. -/
theorem Breaks.join {text text' : String} {reading : Reading} {constants more : List Operand}
    (infinite : ¬ FiniteConstants (constants ++ more))
    (first : ¬ FiniteConstants constants → Breaks text)
    (renders : FiniteConstants constants → Renders Delimited text reading)
    (second : ¬ FiniteConstants more → Breaks text')
    (sets : ∀ rest, Delimited rest → Delimited (text'.toList ++ rest)) :
    Breaks (text ++ text') := by
  by_cases finite : FiniteConstants constants
  · refine .behind (renders finite) (second fun others => infinite fun constant member => ?_) sets
    rcases List.mem_append.mp member with member | member
    · exact finite constant member
    · exact others constant member
  · exact (first finite).before sets

/-- A constant that is an infinite number breaks. -/
theorem breaks_constant {value : Json} (literal : IsLiteral value)
    (infinite : ¬ FiniteConstants [.json value]) : Breaks (constantText (.json value)) := by
  have unbounded : ¬ Operand.IsFinite (.json value) := fun finite =>
    infinite fun constant member => List.mem_singleton.mp member ▸ finite
  cases value with
  | float number =>
    cases number with
    | nan => exact absurd rfl literal
    | infinite negative =>
      cases negative with
      | true => exact breaks_negativeInfinity
      | false => exact breaks_infinity
    | finite negative units representable => cases negative <;> exact (unbounded rfl).elim
  | _ => exact (unbounded trivial).elim

/-- Arguments break if one of them has an infinite constant. -/
theorem breaks_listed {arguments : List Expr} (all : ∀ argument ∈ arguments, argument.Writable)
    (each : ∀ argument ∈ arguments, ¬ FiniteConstants argument.constants → Breaks argument.text)
    (infinite : ¬ FiniteConstants (arguments.flatMap Expr.constants)) :
    Breaks (", ".intercalate (arguments.map Expr.text)) := by
  induction arguments with
  | nil => exact absurd (fun _ member => absurd member List.not_mem_nil) infinite
  | cons argument more ih =>
    have first := each argument List.mem_cons_self
    by_cases none : more = []
    · subst none
      rw [List.map_singleton, String.intercalate_singleton]
      rw [List.flatMap_singleton] at infinite
      exact first infinite
    · have behind := ih (fun other member => all other (List.mem_cons_of_mem _ member))
        fun other member => each other (List.mem_cons_of_mem _ member)
      rw [List.map_cons, String.intercalate_cons_of_ne_nil (by simpa using none),
        String.append_assoc]
      refine .join infinite first (renders_expr (all argument List.mem_cons_self))
        (fun others => .behind renders_comma (behind others) fun _ _ => trivial) fun rest _ => ?_
      rw [String.toList_append]
      exact delimited_comma _

/-- **The written form of an expression breaks** if one of its constants is infinite. -/
theorem breaks_expr {expr : Expr} (writable : expr.Writable)
    (infinite : ¬ FiniteConstants expr.constants) : Breaks expr.text := by
  induction writable with
  | constant literal => exact breaks_constant literal infinite
  | property | parameter => exact absurd (fun _ member => absurd member List.not_mem_nil) infinite
  | @binary left right operator position isLeft joint isRight ihLeft ihRight =>
    have shape : (Expr.binary left operator right position).text =
        "(" ++ (left.text ++ ((" " ++ (operator.symbol ++ " ")) ++ (right.text ++ ")"))) := by
      simp only [Expr.text, String.append_assoc]
    have spaced := (renders_operator joint).beforeBlank.behindBlank
    rw [shape]
    refine .behind renders_opening (.join infinite ihLeft (renders_expr isLeft) (fun isSecond =>
      .behind spaced ((ihRight isSecond).before fun rest _ => delimited_closing rest)
        fun _ _ => trivial) fun rest _ => ?_) fun _ _ => trivial
    rw [String.append_assoc]
    exact delimited_blank_append _ rest
  | not isOperand ih =>
    exact .behind (renders_word .not).beforeBlank (ih infinite) fun _ _ => trivial
  | @call name arguments position plain all ih =>
    rw [Expr.constants, Expr.argumentConstants_eq] at infinite
    have called := (renders_name plain).append renders_opening fun rest _ => endsName_opening rest
    have listed := breaks_listed all ih infinite
    have shape : (Expr.call name arguments position).text =
        (name ++ "(") ++ (", ".intercalate (arguments.map Expr.text) ++ ")") := by
      rw [Expr.text, Expr.argumentTexts_eq, String.append_assoc]
    rw [shape]
    exact .behind called (listed.before fun rest _ => delimited_closing rest) fun _ _ => trivial
  | @between value lower upper position isValue isLower isUpper ihValue ihLower ihUpper =>
    have word := (renders_word .between).behindBlank.beforeBlank
    have joint := (renders_word .and).behindBlank.beforeBlank
    have shape : (Expr.between value lower upper position).text =
        "(" ++ (value.text ++ ((" " ++ "BETWEEN" ++ " ") ++ (lower.text ++
          ((" " ++ "AND" ++ " ") ++ (upper.text ++ ")"))))) := by
      simp only [Expr.text, String.append_assoc]
      rfl
    have last : ¬ FiniteConstants upper.constants → Breaks (upper.text ++ ")") := fun isLast =>
      (ihUpper isLast).before fun rest _ => delimited_closing rest
    rw [shape]
    refine .behind renders_opening (.join infinite ihValue (renders_expr isValue) (fun bounds =>
      .behind word (.join bounds ihLower (renders_expr isLower) (fun isLast =>
        .behind joint (last isLast) fun _ _ => trivial) fun rest _ => ?_) fun _ _ => trivial)
      fun rest _ => ?_) fun _ _ => trivial
    · rw [String.append_assoc, String.append_assoc]
      exact delimited_blank_append _ rest
    · rw [String.append_assoc, String.append_assoc]
      exact delimited_blank_append _ rest

/-! ### Queries -/

/-- **The written form of a query breaks** if one of its constants is infinite. -/
theorem breaks_query {query : Query} (writable : query.Writable)
    (infinite : ¬ FiniteConstants query.constants) : Breaks query.text := by
  have top := renders_top query.top writable.top
  have selection := renders_selection writable.selection
  have source := renders_source writable.source writable.reference
  obtain ⟨condition, some⟩ : ∃ condition, query.condition = some condition := by
    cases found : query.condition with
    | none =>
      rw [Query.constants, found] at infinite
      exact absurd (fun _ member => absurd member List.not_mem_nil) infinite
    | some condition => exact ⟨condition, rfl⟩
  rw [Query.constants, some] at infinite
  have breaks := breaks_expr (writable.condition condition some) infinite
  have clause : Breaks (clauseText .where (query.condition.map Expr.text)) := by
    rw [some]
    have word := (renders_word .where).beforeBlank
    exact .behind renders_blank (.behind word breaks fun _ _ => trivial) fun _ _ => trivial
  rw [query.text_eq]
  refine .behind (renders_word .select).beforeBlank (.behind top (.behind selection (.behind
    renders_blank (.behind source (clause.before ?_) ?_) fun _ _ => trivial) ?_)
    fun _ _ => trivial) fun _ _ => trivial
  · intro rest delimited
    exact delimited_clauseText_append _ _ (delimited_clauseText _ _ delimited)
  · intro rest delimited
    exact delimited_clauseText_append _ _
      (delimited_clauseText_append _ _ (delimited_clauseText _ _ delimited))
  · exact fun rest _ => delimited_blank_append _ rest

/-- A text that breaks is no query. -/
theorem Breaks.refused {text : String} (breaks : Breaks text) :
    ∃ error, Query.readWith true text.toList = .error error := by
  cases result : Query.readWith true text.toList with
  | error error => exact ⟨error, rfl⟩
  | ok query =>
    obtain ⟨stop, phrase, scanned, -⟩ := Query.readWith_eq_ok.mp result
    have found := scan_pieces scanned
    rw [← List.append_nil text.toList] at found
    have follow := phrase.namesFollow
    refine absurd ?_ (breaks [] _ delimited_nil found)
    rwa [List.map_map]

namespace Query

theorem exists_read {text : String} (property : Query → Prop) [DecidablePred property]
    (holds : (read text).toOption.any fun query => property query) :
    ∃ query, read text = .ok query ∧ property query := by
  obtain ⟨query, accepted, holds⟩ := exists_of_any holds
  exact ⟨query, accepted, of_decide_eq_true holds⟩

/-- A query with a number that is too large. -/
def overflowing : List Char :=
  ['S', 'E', 'L', 'E', 'C', 'T', ' ', '*', ' ', 'F', 'R', 'O', 'M', ' ', 'c', ' ', 'W', 'H', 'E',
   'R', 'E', ' ', 'c', '.', 'x', ' ', '<', ' '] ++ List.replicate 309 '9' ++ ['.', '0']

/-- **A query that was read is written as it reads.** If its constants are finite, then its written
form is read as the same query but for places, and is thus its own written form. If one of them is
infinite, then its written form is refused. -/
theorem read_text {text : String} {query : Query} (accepted : read text = .ok query) :
    (FiniteConstants query.constants → ∃ again, read query.text = .ok again ∧
      again.unplaced = query.unplaced ∧ again.text = query.text) ∧
    (¬ FiniteConstants query.constants → ∃ error, read query.text = .error error) := by
  have writable := writable_of_read accepted
  refine ⟨fun finite => ?_, fun infinite => ?_⟩
  · obtain ⟨again, isAgain, same⟩ := read_text_of_finite writable finite
    refine ⟨again, isAgain, same, ?_⟩
    rw [← again.text_unplaced, same, query.text_unplaced]
  · rw [read_written]
    exact (breaks_query writable infinite).refused

/-- One query with finite constants, and one with an infinite one. -/
theorem read_text_both_ways :
    (∃ query, read "SELECT c.x FROM c WHERE NOT c.x BETWEEN 1 AND 2.50" = .ok query ∧
      ∃ again, read query.text = .ok again ∧ again.unplaced = query.unplaced ∧
        again.text = query.text) ∧
    ∃ query, read (String.ofList overflowing) = .ok query ∧
      ∃ error, read query.text = .error error := by
  constructor
  · obtain ⟨query, accepted, finite⟩ := exists_read (fun query => FiniteConstants query.constants)
      (show (read "SELECT c.x FROM c WHERE NOT c.x BETWEEN 1 AND 2.50").toOption.any _ by
        decide +kernel)
    exact ⟨query, accepted, (read_text accepted).1 finite⟩
  · obtain ⟨query, accepted, infinite⟩ := exists_read
      (fun query => ¬ FiniteConstants query.constants)
      (show (read (String.ofList overflowing)).toOption.any _ by
        rw [read, String.toList_ofList]
        decide +kernel)
    exact ⟨query, accepted, (read_text accepted).2 infinite⟩

end Query

end DocQuery
