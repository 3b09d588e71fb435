/-
**Parts of the parser as readers.**

Each part of the parser carries a proof of how much it leaves, and those of conditions are given a
bound on the number of tokens besides. Here they are written without both, in a monad whose state is
the tokens that are left.

* `Reader`, and `reading` for a part without its proofs;
* `look`, `take` and `refuse`: all that a part ever does by itself is to go by the first of the
  tokens;
* `levelWith_whole`: the bound does not matter to what the parser of a level finds;
* an equation for each part, such as `levelReader_operand`, which writes it with these three and
  with other parts. `query_eq` is the one of a whole query.
-/

import DocQuery.Proofs.Query.Acceptance

namespace DocQuery

namespace Parser

open Grammar

/-- A parser whose result is free of proofs. -/
abbrev Reader (α : Type) := StateT (List Token) (Except GrammarError) α

/-- A parser without the proof that what is left is shorter. -/
def reading {α : Type} {property : List Token → List Token → Prop}
    (step : (here : List Token) → Except GrammarError (α × { rest // property here rest })) :
    Reader α := fun here => (step here).map fun found => (found.1, found.2.val)

section

variable {α β : Type} (origin : Origin)

/-- Goes by the first of the tokens: what is found in it decides how those behind it are read. -/
def look (peek : Token → Option β) (present : β → Reader α) (absent : Reader α) : Reader α
  | [] => absent []
  | token :: rest =>
    match peek token with
    | some found => present found rest
    | none => absent (token :: rest)

/-- Fails at the first of the tokens, which also decides what is wrong. -/
def refuse (fault : Option Token → GrammarFault) : Reader α := fun here =>
  .error (failure origin (fault here.head?) here)

/-- Takes the first of the tokens, in which something must be found. -/
def take (peek : Token → Option β) (fault : Option Token → GrammarFault) : Reader β :=
  look peek pure (refuse origin fault)

end

/-! ### What is found in a token -/

/-- A token is a given symbol. -/
def symbolAt (mark : Symbol) (token : Token) : Option Unit :=
  match token.kind with
  | .symbol found _ => if found = mark then some () else none
  | _ => none

/-- The position of a token that is a given keyword. -/
def keywordAt (word : Keyword) (token : Token) : Option Position :=
  match token.kind with
  | .keyword found _ => if found = word then some token.position else none
  | _ => none

/-- A name and its position. -/
def nameAt (token : Token) : Option (String × Position) :=
  match token.kind with
  | .identifier name => some (name, token.position)
  | _ => none

/-- A comparison operator and its position. -/
def comparisonAt (token : Token) : Option (Operator × Position) :=
  (operatorOf? token.kind).map fun operator => (operator, token.position)

/-- The constant that a literal stands for, and its position. -/
def literalAt (token : Token) : Option (Json × Position) :=
  (literal? token.kind).map fun value => (value, token.position)

/-- The name of a parameter and its position. -/
def parameterAt (token : Token) : Option (String × Position) :=
  match token.kind with
  | .parameter name => some (name, token.position)
  | _ => none

/-- A number of documents. -/
def countAt (token : Token) : Option Nat :=
  match token.kind with
  | .integer value => if value < 0 then none else some value.toNat
  | _ => none

section

variable {α : Type} {here : List Token}

theorem look_symbol (mark : Symbol) (present : Unit → Reader α) (absent : Reader α) :
    look (symbolAt mark) present absent here =
      match symbol? mark here with
      | some rest => present () rest.val
      | none => absent here := by
  cases here with
  | nil => rfl
  | cons token rest =>
    simp only [look, symbolAt, symbol?]
    cases token.kind with
    | symbol found => by_cases same : found = mark <;> simp [same]
    | _ => rfl

theorem look_keyword (word : Keyword) (present : Position → Reader α) (absent : Reader α) :
    look (keywordAt word) present absent here =
      match keyword? word here with
      | some (position, rest) => present position rest.val
      | none => absent here := by
  cases here with
  | nil => rfl
  | cons token rest =>
    simp only [look, keywordAt, keyword?]
    cases token.kind with
    | keyword found => by_cases same : found = word <;> simp [same]
    | _ => rfl

theorem look_name (present : String × Position → Reader α) (absent : Reader α) :
    look nameAt present absent here =
      match name? here with
      | some (name, position, rest) => present (name, position) rest.val
      | none => absent here := by
  cases here with
  | nil => rfl
  | cons token rest =>
    simp only [look, nameAt, name?]
    cases token.kind <;> rfl

theorem look_comparison (present : Operator × Position → Reader α) (absent : Reader α) :
    look comparisonAt present absent here =
      match comparison? here with
      | some (operator, position, rest) => present (operator, position) rest.val
      | none => absent here := by
  cases here with
  | nil => rfl
  | cons token rest =>
    simp only [look, comparisonAt, comparison?]
    cases operatorOf? token.kind <;> rfl

end

/-! ### Bounds do not matter

What a part of the parser of conditions finds in some tokens is the same for every bound that they
keep.
-/

section Bounds

variable (origin : Origin) {bound bound' : Nat} (less : bound ≤ bound')

theorem arguments_whole (here : List Token) (fits : here.length < bound) :
    arguments origin (@whole origin bound) here fits =
      arguments origin (@whole origin bound') here (Nat.lt_of_lt_of_le fits less) := by
  unfold arguments
  simp only [whole]
  cases condition origin here with
  | error failure => rfl
  | ok found =>
    obtain ⟨argument, behind⟩ := found
    dsimp only
    cases symbol? .comma behind.val with
    | none => rfl
    | some behindComma =>
      have same := arguments_whole behindComma.val
        (Nat.lt_trans (behind.trans behindComma).property fits)
      dsimp only
      rw [same]
termination_by here.length
decreasing_by exact (behind.trans behindComma).property

theorem operand_whole (here : List Token) (fits : here.length ≤ bound) :
    operand origin (@whole origin bound) here fits =
      operand origin (@whole origin bound') here (Nat.le_trans fits less) := by
  cases here with
  | nil => rfl
  | cons token rest =>
    simp only [operand, named, callRest, arguments_whole origin less]
    rfl

theorem negated_whole (here : List Token) (fits : here.length ≤ bound) :
    negated origin (@whole origin bound) here fits =
      negated origin (@whole origin bound') here (Nat.le_trans fits less) := by
  unfold negated
  cases keyword? .not here with
  | none => exact operand_whole origin less here fits
  | some found =>
    obtain ⟨position, behind⟩ := found
    have same := negated_whole behind.val (Nat.le_trans (Nat.le_of_lt behind.property) fits)
    dsimp only
    rw [same]
termination_by here.length
decreasing_by exact behind.property

theorem comparison_whole (here : List Token) (fits : here.length ≤ bound) :
    comparison origin (@whole origin bound) here fits =
      comparison origin (@whole origin bound') here (Nat.le_trans fits less) := by
  simp only [comparison, ranged, rangeBounds, negated_whole origin less]

theorem moreOperands_congr {word : Keyword} {operator : Operator} {level : Level bound}
    {level' : Level bound'}
    (same : ∀ here fits, level here fits = level' here (Nat.le_trans fits less)) (left : Expr)
    (here : List Token) (fits : here.length ≤ bound) :
    moreOperands word operator level left here fits =
      moreOperands word operator level' left here (Nat.le_trans fits less) := by
  unfold moreOperands
  simp only [same]
  cases keyword? word here with
  | none => rfl
  | some found =>
    obtain ⟨position, behind⟩ := found
    dsimp only
    cases level' behind.val _ with
    | error failure => rfl
    | ok found =>
      obtain ⟨right, behindRight⟩ := found
      dsimp only
      rw [moreOperands_congr same _ (behind.trans behindRight).val]
termination_by here.length
decreasing_by exact (behind.trans behindRight).property

theorem operands_congr {word : Keyword} {operator : Operator} {level : Level bound}
    {level' : Level bound'}
    (same : ∀ here fits, level here fits = level' here (Nat.le_trans fits less))
    (here : List Token) (fits : here.length ≤ bound) :
    operands word operator level here fits =
      operands word operator level' here (Nat.le_trans fits less) := by
  simp only [operands, same, moreOperands_congr less same]

/-- **What the parser of a level finds does not depend on the bound** that it is given. -/
theorem levelWith_whole (level : Grammar.Level) (here : List Token)
    (fits : here.length ≤ bound) :
    levelWith origin (@whole origin bound) level here fits =
      levelWith origin (@whole origin bound') level here (Nat.le_trans fits less) := by
  have conjuncts := @operands_congr _ _ less .and .and _ _ (comparison_whole origin less)
  cases level with
  | operand => exact operand_whole origin less here fits
  | negated => exact negated_whole origin less here fits
  | ranged => simp only [levelWith, ranged, rangeBounds, negated_whole origin less]
  | comparison => exact comparison_whole origin less here fits
  | joined junction =>
    cases junction with
    | and => exact conjuncts here fits
    | or => exact operands_congr less conjuncts here fits

end Bounds

/-! ### Parts of the parser as readers -/

/-- The bound under which a part of the parser reads all the tokens that are left. -/
theorem fits_self (here : List Token) : here.length ≤ here.length := Nat.le_refl _

theorem fits_next (here : List Token) : here.length < here.length + 1 := Nat.lt_succ_self _

/-- The reader of a level of conditions. -/
def levelReader (origin : Origin) (level : Grammar.Level) : Reader Expr :=
  reading fun here => levelWith origin (@whole origin here.length) level here (fits_self here)

/-- The reader of further operands of a junction. -/
def furtherReader (origin : Origin) (junction : Junction) (left : Expr) : Reader Expr :=
  reading fun here => moreOperands junction.keyword junction.operator
    (levelWith origin (@whole origin here.length) junction.part) left here (fits_self here)

/-- The reader of the arguments of a function, of which there is one at least. -/
def argumentsReader (origin : Origin) : Reader (List Expr) :=
  reading fun here => arguments origin (@whole origin (here.length + 1)) here (fits_next here)

/-- The reader of the bounds of a range. -/
def rangeReader (origin : Origin) : Reader (Expr × Expr) := do
  let lower ← levelReader origin .negated
  let _ ← take origin (keywordAt .and) fun _ => .expectedRangeEnd
  let upper ← levelReader origin .negated
  return (lower, upper)

/-- The reader of what stands behind the opening parenthesis of a call. -/
def callReader (origin : Origin) : Reader (List Expr) :=
  look (symbolAt .rightParen) (fun _ => pure []) (argumentsReader origin)

/-- The reader of a condition in parentheses behind the opening one. -/
def groupReader (origin : Origin) : Reader Expr := do
  let found ← levelReader origin (.joined .or)
  let _ ← take origin (symbolAt .rightParen) fun _ => .expectedClosing
  return found

/-- The reader of a call or a path behind its first name. -/
def namedReader (origin : Origin) (name : String) (position : Position) : Reader Expr :=
  look (symbolAt .leftParen) (fun _ => do
    let found ← callReader origin
    return .call name found position)
    (do
      let names ← reading (moreSegments origin)
      return .property (".".intercalate (name :: names)) position)

section Binds

variable {α β : Type} (origin : Origin) (here : List Token)

/-- A part and what is behind it, both of which can fail. -/
theorem reading_bind {property : List Token → List Token → Prop}
    (step : (here : List Token) → Except GrammarError (α × { rest // property here rest }))
    (next : α → Reader β) :
    (reading step >>= next) here = step here >>= fun found => next found.1 found.2.val := by
  show (reading step here >>= fun found => next found.1 found.2) = _
  rw [reading]
  cases step here <;> rfl

/-- The parser of a level may be given any bound that fits, since it may stand behind others. -/
theorem levelReader_bind (level : Grammar.Level) {bound : Nat} (fits : here.length ≤ bound)
    (next : Expr → Reader β) :
    (levelReader origin level >>= next) here =
      levelWith origin (@whole origin bound) level here fits >>=
        fun found => next found.1 found.2.val := by
  rw [levelReader, reading_bind, levelWith_whole origin fits]

theorem condition_bind (next : Expr → Reader β) :
    (levelReader origin (.joined .or) >>= next) here =
      condition origin here >>= fun found => next found.1 found.2.val := by
  rw [levelReader_bind origin here _ (Nat.le_refl _), condition]
  rfl

theorem furtherReader_bind (junction : Junction) (left : Expr) {bound : Nat}
    (fits : here.length ≤ bound) (next : Expr → Reader β) :
    (furtherReader origin junction left >>= next) here =
      moreOperands junction.keyword junction.operator
          (levelWith origin (@whole origin bound) junction.part) left here fits >>=
        fun found => next found.1 found.2.val := by
  rw [furtherReader, reading_bind, moreOperands_congr fits (levelWith_whole origin fits _)]

theorem argumentsReader_bind {bound : Nat} (fits : here.length < bound)
    (next : List Expr → Reader β) :
    (argumentsReader origin >>= next) here =
      arguments origin (@whole origin bound) here fits >>=
        fun found => next found.1 found.2.val := by
  rw [argumentsReader, reading_bind, arguments_whole origin fits]

theorem take_symbol_bind (mark : Symbol) (fault : GrammarFault) (next : Unit → Reader β) :
    (take origin (symbolAt mark) (fun _ => fault) >>= next) here =
      expectSymbol origin mark fault here >>= fun rest => next () rest.val := by
  show (take origin (symbolAt mark) (fun _ => fault) here >>= fun found => next found.1 found.2) = _
  rw [take, look_symbol, expectSymbol]
  cases symbol? mark here <;> rfl

theorem take_keyword_bind (word : Keyword) (fault : GrammarFault) (next : Reader β) :
    (take origin (keywordAt word) (fun _ => fault) >>= fun _ => next) here =
      expectKeyword origin word fault here >>= fun rest => next rest.val := by
  show (take origin (keywordAt word) (fun _ => fault) here >>= fun found => next found.2) = _
  rw [take, look_keyword, expectKeyword]
  cases keyword? word here <;> rfl

theorem take_name_bind (fault : GrammarFault) (next : String → Reader β) :
    (take origin nameAt (fun _ => fault) >>= fun found => next found.1) here =
      expectName origin fault here >>= fun found => next found.1 found.2.val := by
  show (take origin nameAt (fun _ => fault) here >>= fun found => next found.1.1 found.2) = _
  rw [take, look_name, expectName]
  cases name? here <;> rfl

end Binds

/-! ### What is left is shorter -/

section Shorter

variable {origin : Origin} {here rest : List Token}

theorem reading_shorter {α : Type} {step : (here : List Token) → Step α here} {found : α}
    (taken : reading step here = .ok (found, rest)) : rest.length < here.length := by
  rw [reading] at taken
  cases result : step here with
  | error failure =>
    rw [result] at taken
    cases taken
  | ok result' =>
    rw [result] at taken
    cases taken
    exact result'.2.property

theorem levelReader_shorter {level : Grammar.Level} {found : Expr}
    (taken : levelReader origin level here = .ok (found, rest)) : rest.length < here.length :=
  reading_shorter taken

theorem take_shorter {β : Type} {peek : Token → Option β} {fault : Option Token → GrammarFault}
    {found : β} (taken : take origin peek fault here = .ok (found, rest)) :
    rest.length < here.length := by
  cases here with
  | nil => cases taken
  | cons token behind =>
    rw [take, look] at taken
    split at taken
    · cases taken
      exact Nat.lt_succ_self _
    · cases taken

end Shorter

/-! ### An equation for each part -/

section Equations

variable (origin : Origin)

theorem reading_segment : reading (segment origin) = take origin
    (fun token => if isSegment token.kind then some (segmentText origin token) else none)
    fun _ => .expectedSegment := by
  funext here
  cases here with
  | nil => rfl
  | cons token rest =>
    simp only [reading, segment, take, look]
    cases isSegment token.kind <;> rfl

theorem reading_moreSegments : reading (moreSegments origin) =
    look (symbolAt .dot) (fun _ => do
      let name ← reading (segment origin)
      let names ← reading (moreSegments origin)
      return name :: names) (pure []) := by
  funext here
  rw [look_symbol, reading, moreSegments]
  cases symbol? .dot here with
  | none => rfl
  | some behindDot =>
    dsimp only
    rw [reading_bind]
    cases segment origin behindDot.val with
    | error failure => rfl
    | ok found =>
      dsimp only
      rw [ok_bind, reading_bind]
      cases moreSegments origin found.2.val <;> rfl

theorem reading_path : reading (path origin) = (do
    let first ← take origin nameAt fun _ => .expectedPath
    let names ← reading (moreSegments origin)
    return ".".intercalate (first.1 :: names)) := by
  funext here
  rw [take_name_bind origin here _ fun name =>
      reading (moreSegments origin) >>= fun names => pure (".".intercalate (name :: names)),
    reading, path, expectName]
  cases name? here with
  | none => rfl
  | some found =>
    obtain ⟨name, position, behind⟩ := found
    dsimp only
    rw [ok_bind, reading_bind]
    cases moreSegments origin behind.val <;> rfl

theorem levelReader_negated : levelReader origin .negated =
    look (keywordAt .not) (fun position => do
      let found ← levelReader origin .negated
      return .unary .not found position) (levelReader origin .operand) := by
  funext here
  rw [look_keyword]
  show Except.map _ (negated origin _ here _) = _
  rw [negated]
  cases keyword? .not here with
  | none => rfl
  | some found =>
    obtain ⟨position, behind⟩ := found
    dsimp only
    rw [levelReader_bind origin behind.val .negated (Nat.le_of_lt behind.property)]
    dsimp only [levelWith]
    cases negated origin _ behind.val _ <;> rfl

theorem rangeReader_bind {β : Type} (here : List Token) {bound : Nat}
    (fits : here.length ≤ bound) (next : Expr × Expr → Reader β) :
    (rangeReader origin >>= next) here =
      rangeBounds origin (@whole origin bound) here fits >>=
        fun found => next found.1 found.2.val := by
  rw [rangeReader, bind_assoc, levelReader_bind origin here .negated fits, rangeBounds]
  dsimp only [levelWith]
  cases negated origin _ here _ with
  | error failure => rfl
  | ok found =>
    obtain ⟨lower, behind⟩ := found
    rw [ok_bind, bind_assoc, take_keyword_bind]
    dsimp only
    cases expectKeyword origin .and _ behind.val with
    | error failure => rfl
    | ok behindAnd =>
      -- To the parser what is left here is the rest of a rest, which it has by definition.
      have fewer := Nat.le_trans (Nat.le_of_lt (behind.trans behindAnd).property) fits
      rw [ok_bind, bind_assoc, show (levelReader origin .negated >>= _) behindAnd.val = _ from
        levelReader_bind origin (behind.trans behindAnd).val .negated fewer _]
      dsimp only [levelWith]
      cases negated origin _ (behind.trans behindAnd).val _ <;> rfl

theorem levelReader_ranged : levelReader origin .ranged = (do
    let value ← levelReader origin .negated
    look (keywordAt .between) (fun position => do
      let bounds ← rangeReader origin
      return .between value bounds.1 bounds.2 position) (pure value)) := by
  funext here
  rw [levelReader_bind origin here .negated (Nat.le_refl _)]
  show Except.map _ (ranged origin _ here _) = _
  dsimp only [levelWith]
  rw [ranged]
  cases negated origin _ here _ with
  | error failure => rfl
  | ok found =>
    obtain ⟨value, behind⟩ := found
    rw [ok_bind, look_keyword]
    dsimp only
    cases keyword? .between behind.val with
    | none => rfl
    | some found =>
      obtain ⟨position, behindWord⟩ := found
      have fewer := Nat.le_of_lt (behind.trans behindWord).property
      dsimp only
      rw [show (rangeReader origin >>= _) behindWord.val = _ from
        rangeReader_bind origin (behind.trans behindWord).val fewer _]
      cases rangeBounds origin _ (behind.trans behindWord).val _ <;> rfl

theorem levelReader_comparison : levelReader origin .comparison = (do
    let left ← levelReader origin .ranged
    look comparisonAt (fun sign => do
      let right ← levelReader origin .ranged
      return .binary left sign.1 right sign.2) (pure left)) := by
  funext here
  rw [levelReader_bind origin here .ranged (Nat.le_refl _)]
  show Except.map _ (comparison origin _ here _) = _
  dsimp only [levelWith]
  rw [comparison]
  cases ranged origin _ here _ with
  | error failure => rfl
  | ok found =>
    obtain ⟨left, behind⟩ := found
    rw [ok_bind, look_comparison]
    dsimp only
    cases comparison? behind.val with
    | none => rfl
    | some found =>
      obtain ⟨operator, position, behindSign⟩ := found
      have fewer := Nat.le_of_lt (behind.trans behindSign).property
      dsimp only
      rw [show (levelReader origin .ranged >>= _) behindSign.val = _ from
        levelReader_bind origin (behind.trans behindSign).val .ranged fewer _]
      dsimp only [levelWith]
      cases ranged origin _ (behind.trans behindSign).val _ <;> rfl

theorem furtherReader_eq (junction : Junction) (left : Expr) :
    furtherReader origin junction left =
      look (keywordAt junction.keyword) (fun position => do
        let right ← levelReader origin junction.part
        furtherReader origin junction (.binary left junction.operator right position))
        (pure left) := by
  funext here
  rw [look_keyword, furtherReader, reading, moreOperands]
  cases keyword? junction.keyword here with
  | none => rfl
  | some found =>
    obtain ⟨position, behind⟩ := found
    dsimp only
    rw [levelReader_bind origin behind.val _ (Nat.le_of_lt behind.property)]
    cases levelWith origin _ junction.part behind.val _ with
    | error failure => rfl
    | ok found =>
      obtain ⟨right, behindRight⟩ := found
      have fewer := Nat.le_of_lt (behind.trans behindRight).property
      have further := furtherReader_bind origin (behind.trans behindRight).val junction
        (.binary left junction.operator right position) fewer pure
      rw [bind_pure] at further
      rw [ok_bind]
      refine Eq.trans ?_ further.symm
      dsimp only
      cases moreOperands _ _ _ _ (behind.trans behindRight).val _ <;> rfl

theorem levelReader_joined (junction : Junction) : levelReader origin (.joined junction) = (do
    let left ← levelReader origin junction.part
    furtherReader origin junction left) := by
  funext here
  rw [levelReader_bind origin here _ (Nat.le_refl _)]
  show Except.map _ (levelWith origin _ (.joined junction) here _) = _
  rw [levelWith_joined, operands]
  cases levelWith origin _ junction.part here _ with
  | error failure => rfl
  | ok found =>
    obtain ⟨left, behind⟩ := found
    have further := furtherReader_bind origin behind.val junction left
      (Nat.le_of_lt behind.property) pure
    rw [bind_pure] at further
    rw [ok_bind]
    refine Eq.trans ?_ further.symm
    dsimp only
    cases moreOperands _ _ _ _ behind.val _ <;> rfl

theorem argumentsReader_eq : argumentsReader origin = (do
    let argument ← levelReader origin (.joined .or)
    look (symbolAt .comma) (fun _ => do
      let more ← argumentsReader origin
      return argument :: more)
      (do
        let _ ← take origin (symbolAt .rightParen) fun _ => .expectedArgumentsEnd
        return [argument])) := by
  funext here
  rw [condition_bind]
  show Except.map _ (arguments origin _ here _) = _
  rw [arguments]
  simp only [whole]
  cases condition origin here with
  | error failure => rfl
  | ok found =>
    obtain ⟨argument, behind⟩ := found
    rw [ok_bind, look_symbol]
    dsimp only
    cases symbol? .comma behind.val with
    | none =>
      dsimp only
      rw [take_symbol_bind]
      cases expectSymbol origin .rightParen _ behind.val <;> rfl
    | some behindComma =>
      have fewer := Nat.lt_succ_of_lt (behind.trans behindComma).property
      dsimp only
      rw [argumentsReader_bind origin behindComma.val fewer]
      cases arguments origin _ behindComma.val _ <;> rfl

theorem callReader_bind {β : Type} (here : List Token) {bound : Nat} (fits : here.length < bound)
    (next : List Expr → Reader β) :
    (callReader origin >>= next) here =
      callRest origin (@whole origin bound) here fits >>=
        fun found => next found.1 found.2.val := by
  show (callReader origin here >>= fun found => next found.1 found.2) = _
  rw [callReader, look_symbol, callRest]
  cases symbol? .rightParen here with
  | some rest => rfl
  | none => exact argumentsReader_bind origin here fits next

theorem groupReader_eq (here : List Token) {bound : Nat} (fits : here.length < bound) :
    groupReader origin here =
      (grouped origin (@whole origin bound) here fits).map fun found => (found.1, found.2.val) := by
  rw [groupReader, condition_bind, grouped]
  simp only [whole]
  cases condition origin here with
  | error failure => rfl
  | ok found =>
    obtain ⟨found, behind⟩ := found
    rw [ok_bind, take_symbol_bind]
    dsimp only
    cases expectSymbol origin .rightParen _ behind.val <;> rfl

theorem namedReader_eq (name : String) (position : Position) (here : List Token) {bound : Nat}
    (fits : here.length < bound) :
    namedReader origin name position here =
      (named origin (@whole origin bound) name position here fits).map
        fun found => (found.1, found.2.val) := by
  rw [namedReader, look_symbol, named]
  cases symbol? .leftParen here with
  | some behind =>
    dsimp only
    rw [callReader_bind origin behind.val (Nat.lt_trans behind.property fits)]
    cases callRest origin _ behind.val _ <;> rfl
  | none =>
    dsimp only
    rw [reading_bind]
    cases moreSegments origin here <;> rfl

/-- The first token shows what kind of operand it is. -/
theorem levelReader_operand : levelReader origin .operand =
    look literalAt (fun value => pure (.constant (.json value.1) value.2))
      (look parameterAt (fun name => pure (.parameter name.1 name.2))
        (look (symbolAt .leftParen) (fun _ => groupReader origin)
          (look nameAt (fun name => namedReader origin name.1 name.2)
            (refuse origin fun _ => .expectedOperand)))) := by
  funext here
  cases here with
  | nil => rfl
  | cons token rest =>
    have isGroup := groupReader_eq origin rest (Nat.lt_succ_self _)
    have isNamed := fun name => namedReader_eq origin name token.position rest (Nat.lt_succ_self _)
    show Except.map _ (operand origin _ (token :: rest) (Nat.le_refl _)) = _
    simp only [operand, look, literalAt, parameterAt, symbolAt, nameAt]
    cases token.kind with
    | symbol mark spelling =>
      cases mark with
      | leftParen =>
        refine Eq.trans ?_ isGroup.symm
        dsimp only [literal?]
        cases grouped origin _ rest _ <;> rfl
      | _ => rfl
    | identifier name =>
      refine Eq.trans ?_ (isNamed name).symm
      dsimp only [literal?]
      cases named origin _ name token.position rest _ <;> rfl
    | _ => rfl

end Equations

/-! ### Clauses as readers -/

section Clauses

variable (origin : Origin)

theorem reading_separated {α : Type} (item : (here : List Token) → Step α here) :
    reading (separated item) = (do
      let first ← reading item
      look (symbolAt .comma) (fun _ => do
        let more ← reading (separated item)
        return first :: more) (pure [first])) := by
  funext here
  rw [reading_bind, reading, separated]
  cases item here with
  | error failure => rfl
  | ok found =>
    obtain ⟨first, behind⟩ := found
    rw [ok_bind, look_symbol]
    dsimp only
    cases symbol? .comma behind.val with
    | none => rfl
    | some behindComma =>
      dsimp only
      rw [reading_bind]
      cases separated item behindComma.val <;> rfl

theorem reading_orderKey : reading (orderKey origin) = (do
    let found ← reading (path origin)
    look (keywordAt .desc) (fun _ => pure ⟨found, true⟩)
      (look (keywordAt .asc) (fun _ => pure ⟨found, false⟩) (pure ⟨found, false⟩))) := by
  funext here
  rw [reading_bind, reading, orderKey]
  cases path origin here with
  | error failure => rfl
  | ok found =>
    obtain ⟨found, behind⟩ := found
    rw [ok_bind, look_keyword]
    dsimp only
    cases keyword? .desc behind.val with
    | some _ => rfl
    | none =>
      dsimp only
      rw [look_keyword]
      cases keyword? .asc behind.val <;> rfl

theorem reading_expectCount (clause : Keyword) : reading (expectCount origin clause) =
    take origin countAt fun
      | some ⟨.integer value, _, _⟩ => .negativeCount clause value
      | _ => .expectedCount clause := by
  funext here
  cases here with
  | nil => rfl
  | cons token rest =>
    obtain ⟨kind, position, length⟩ := token
    simp only [reading, expectCount, take, look, countAt]
    cases kind with
    | integer value => by_cases negative : value < 0 <;> simp [negative] <;> rfl
    | _ => rfl

theorem forget_eq_reading {α : Type} (step : (here : List Token) → Step α here) :
    (fun here => forget (step here)) = reading step := by
  funext here
  show forget (step here) = (step here).map _
  cases step here <;> rfl

theorem clause?_eq {α : Type} (word : Keyword) (body : Reader α) :
    StateT.mk (clause? word body) =
      look (keywordAt word) (fun _ => do
        let found ← body
        return some found) (pure none) := by
  funext here
  show clause? word body here = _
  rw [look_keyword, clause?]
  cases keyword? word here with
  | none => rfl
  | some found =>
    show _ = (body found.2.val >>= fun result => .ok (some result.1, result.2))
    dsimp only
    cases body found.2.val <;> rfl

theorem selection_eq : StateT.mk (selection origin) =
    look (symbolAt .star) (fun _ => pure .all) (do
      let names ← reading (separated (path origin))
      return .paths names) := by
  funext here
  show selection origin here = _
  rw [look_symbol, selection]
  cases symbol? .star here with
  | some rest => rfl
  | none =>
    dsimp only
    rw [reading_bind]
    cases separated (path origin) here <;> rfl

theorem alias?_eq : StateT.mk (alias? origin) =
    look (keywordAt .as) (fun _ => do
      let found ← take origin nameAt fun _ => .expectedAlias
      return some found.1)
      (look nameAt (fun found => pure (some found.1)) (pure none)) := by
  funext here
  show alias? origin here = _
  rw [look_keyword, alias?]
  cases keyword? .as here with
  | none =>
    dsimp only
    rw [look_name]
    cases name? here <;> rfl
  | some found =>
    dsimp only
    rw [take_name_bind origin found.2.val _ fun name => pure (some name)]
    cases expectName origin .expectedAlias found.2.val <;> rfl

theorem source_eq : StateT.mk (source origin) = (do
    let name ← take origin nameAt fun _ => .expectedSource
    let reference ← StateT.mk (alias? origin)
    return ⟨name.1, reference⟩) := by
  funext here
  exact (take_name_bind origin here .expectedSource fun name =>
    StateT.mk (alias? origin) >>= fun reference => pure (Source.mk name reference)).symm

theorem orderKeys_eq : StateT.mk (orderKeys origin) = (do
    let _ ← take origin (keywordAt .by) fun _ => .expectedBy
    reading (separated (orderKey origin))) := by
  funext here
  rw [take_keyword_bind, ← forget_eq_reading]
  rfl

/-- Fails unless all tokens have been taken. -/
def finish : Reader Unit
  | [] => .ok ((), [])
  | token :: rest => .error (failure origin (.unexpectedToken token.kind) (token :: rest))

/-- The reader of a query that takes all tokens. -/
def queryReader : Reader Query := do
  let _ ← take origin (keywordAt .select) fun _ => .expectedSelect
  let top ← StateT.mk (clause? .top (reading (expectCount origin .top)))
  let selection ← StateT.mk (selection origin)
  let _ ← take origin (keywordAt .from) fun _ => .expectedFrom
  let source ← StateT.mk (source origin)
  let condition ← StateT.mk (clause? .where (levelReader origin (.joined .or)))
  let order ← StateT.mk (clause? .order (orderKeys origin))
  let limit ← StateT.mk (clause? .limit (reading (expectCount origin .limit)))
  finish origin
  return ⟨selection, top, source, condition, order, limit⟩

theorem levelReader_condition : levelReader origin (.joined .or) = reading (condition origin) := by
  funext here
  have found := condition_bind origin here pure
  rw [bind_pure] at found
  rw [found, reading]
  cases condition origin here <;> rfl

/-- **The parser of queries is the reader of queries**, without the tokens that are left. -/
theorem query_eq (tokens : List Token) :
    query origin tokens = Prod.fst <$> queryReader origin tokens := by
  -- Both sides are chains of the same parts, so that one part is compared after another.
  rw [queryReader, take_keyword_bind, levelReader_condition, ← forget_eq_reading,
    ← forget_eq_reading, ← forget_eq_reading, map_bind, query]
  refine bind_congr fun behindSelect => ?_
  refine Eq.trans ?_ (map_bind _ _ _).symm
  refine bind_congr fun top => ?_
  refine Eq.trans ?_ (map_bind _ _ _).symm
  refine bind_congr fun selection => ?_
  dsimp only
  rw [take_keyword_bind, map_bind]
  refine bind_congr fun behindFrom => ?_
  refine Eq.trans ?_ (map_bind _ _ _).symm
  refine bind_congr fun source => ?_
  refine Eq.trans ?_ (map_bind _ _ _).symm
  refine bind_congr fun condition => ?_
  refine Eq.trans ?_ (map_bind _ _ _).symm
  refine bind_congr fun order => ?_
  refine Eq.trans ?_ (map_bind _ _ _).symm
  refine bind_congr fun limit => ?_
  obtain ⟨limit, rest⟩ := limit
  cases rest <;> rfl

end Clauses

end Parser

end DocQuery
