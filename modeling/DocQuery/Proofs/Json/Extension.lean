/-
**What is read does not depend on what stands behind it.**

* `enclosed`, `continued`: what stands between the marks of an array or an object, and what is
  behind one of its elements;
* `valueAt`, `itemsAt`, `fieldsAt`: values, items and fields with what they leave, put together from
  these. `itemsAt_eq_ok` and `fieldsAt_eq_ok` say when they are read;
* `valueAt_append`: a value is read as the same in front of more, and only characters that JSON has
  are passed.
-/

import DocQuery.Proofs.Json.Scanning

namespace DocQuery

namespace JsonReader

variable {bound : DigitBound} {here rest behind more : List Char}

/-! ### What stands between marks -/

section

variable {α : Type} {close : Char} {wrap : List α → Json} {first : α} {all : List α} {v : Json}
  {inside : List Char → Except JsonError (List α × List Char)}

/-- What is enclosed between marks, from behind the first one. -/
def enclosed (close : Char) (wrap : List α → Json)
    (inside : List Char → Except JsonError (List α × List Char)) (here : List Char) :
    Except JsonError (Json × List Char) :=
  if (skipSpace here).head? = some close then .ok (wrap [], (skipSpace here).tail)
  else (inside (skipSpace here)).map fun (all, rest) => (wrap all, rest)

/-- What is behind the first one of several: the closing mark, or a comma and the others. -/
def continued (close : Char) (inside : List Char → Except JsonError (List α × List Char))
    (first : α) (behind : List Char) : Except JsonError (List α × List Char) :=
  match skipSpace behind with
  | [] => .error .malformed
  | c :: left =>
    if c = close then .ok ([first], left)
    else if c = ',' then
      (inside (skipSpace left)).map fun (others, rest) => (first :: others, rest)
    else .error .malformed

theorem enclosed_closed (found : skipSpace here = close :: rest) :
    enclosed close wrap inside here = .ok (wrap [], rest) := by
  rw [enclosed, found]
  exact if_pos rfl

theorem enclosed_open (isOpen : ∀ left, skipSpace here ≠ close :: left) :
    enclosed close wrap inside here =
      (inside (skipSpace here)).map fun (all, rest) => (wrap all, rest) := by
  refine if_neg fun isClosed => ?_
  obtain ⟨left, found⟩ := List.head?_eq_some_iff.mp isClosed
  exact isOpen left found

theorem enclosed_eq_ok : enclosed close wrap inside here = .ok (v, rest) ↔
    skipSpace here = close :: rest ∧ v = wrap [] ∨ (∀ left, skipSpace here ≠ close :: left) ∧
      ∃ all, inside (skipSpace here) = .ok (all, rest) ∧ v = wrap all := by
  by_cases isClosed : ∃ left, skipSpace here = close :: left
  · obtain ⟨left, found⟩ := isClosed
    rw [enclosed_closed found]
    constructor
    · rintro ⟨⟩
      exact .inl ⟨found, rfl⟩
    · rintro (⟨same, rfl⟩ | ⟨isOpen, -⟩)
      · rw [(List.cons_eq_cons.mp (found.symm.trans same)).2]
      · exact absurd found (isOpen left)
  · have isOpen := not_exists.mp isClosed
    rw [enclosed_open isOpen, map_eq_ok]
    constructor
    · rintro ⟨⟨all, _⟩, isInside, ⟨⟩⟩
      exact .inr ⟨isOpen, all, isInside, rfl⟩
    · rintro (⟨found, -⟩ | ⟨-, all, isInside, rfl⟩)
      · exact absurd found (isOpen rest)
      · exact ⟨_, isInside, rfl⟩

theorem continued_closed (found : skipSpace behind = close :: rest) :
    continued close inside first behind = .ok ([first], rest) := by
  rw [continued, found]
  exact if_pos rfl

theorem continued_comma (apart : close ≠ ',') {left : List Char}
    (found : skipSpace behind = ',' :: left) : continued close inside first behind =
      (inside (skipSpace left)).map fun (others, rest) => (first :: others, rest) := by
  rw [continued, found]
  exact (if_neg apart.symm).trans (if_pos rfl)

theorem continued_refused (noClose : ∀ left, skipSpace behind ≠ close :: left)
    (noComma : ∀ left, skipSpace behind ≠ ',' :: left) :
    continued close inside first behind = .error .malformed := by
  rw [continued]
  split
  · rfl
  · next c left found =>
    refine (if_neg ?_).trans (if_neg ?_)
    · rintro rfl
      exact noClose left found
    · rintro rfl
      exact noComma left found

theorem continued_eq_ok (apart : close ≠ ',') :
    continued close inside first behind = .ok (all, rest) ↔
      skipSpace behind = close :: rest ∧ all = [first] ∨
        ∃ left others, skipSpace behind = ',' :: left ∧
          inside (skipSpace left) = .ok (others, rest) ∧ all = first :: others := by
  constructor
  · intro read
    rw [continued] at read
    split at read
    · cases read
    · next c left found =>
      split at read
      · next isClose =>
        cases read
        exact .inl ⟨isClose ▸ found, rfl⟩
      split at read
      · next isComma =>
        obtain ⟨⟨others, _⟩, isInside, same⟩ := map_eq_ok.mp read
        cases same
        exact .inr ⟨left, others, isComma ▸ found, isInside, rfl⟩
      · cases read
  · rintro (⟨found, rfl⟩ | ⟨left, others, found, isInside, rfl⟩)
    · exact continued_closed found
    · rw [continued_comma apart found]
      exact map_eq_ok.mpr ⟨_, isInside, rfl⟩

end

/-! ### Values and what they leave -/

/-- What a step reads and leaves, without the proof that it leaves less. -/
def unproved {α : Type} (found : Except JsonError (α × Shorter here)) :
    Except JsonError (α × List Char) :=
  found.map fun (v, rest) => (v, rest.val)

@[simp] theorem unproved_ok {α : Type} (v : α) (left : Shorter here) :
    unproved (.ok (v, left)) = .ok (v, left.val) := rfl

theorem length_lt_of_unproved {α : Type} {v : α} {found : Except JsonError (α × Shorter here)}
    (read : unproved found = .ok (v, rest)) : rest.length < here.length := by
  cases found with
  | error failure => cases read
  | ok result =>
    cases read
    exact result.2.2

theorem ne_nil_of_unproved {α : Type} {v : α} {found : Except JsonError (α × Shorter here)}
    (read : unproved found = .ok (v, rest)) : here ≠ [] :=
  List.ne_nil_of_length_pos (Nat.zero_lt_of_lt (length_lt_of_unproved read))

/-- A value that begins here. -/
def valueAt (bound : DigitBound) (here : List Char) : Except JsonError (Json × List Char) :=
  unproved (value bound here)

/-- The items of an array from one that begins here. -/
def itemsAt (bound : DigitBound) (here : List Char) : Except JsonError (List Json × List Char) :=
  unproved (items bound here)

/-- The fields of an object from one that begins here. -/
def fieldsAt (bound : DigitBound) (here : List Char) : Except JsonError (Fields × List Char) :=
  unproved (fields bound here)

theorem valueAt_string (here : List Char) : valueAt bound ('"' :: here) =
    expected ((stringToken ('"' :: here)).map fun (text, rest) => (.string text, rest.val)) := by
  rw [valueAt, value]
  cases stringToken ('"' :: here) <;> rfl

theorem valueAt_array (here : List Char) :
    valueAt bound ('[' :: here) = enclosed ']' .array (itemsAt bound) here := by
  rw [valueAt, value]
  split
  · next found => rw [enclosed_closed found, unproved_ok]
  · next isOpen =>
    rw [enclosed_open isOpen, itemsAt]
    cases items bound (skipSpace here) <;> rfl

theorem valueAt_object (here : List Char) : valueAt bound ('\x7b' :: here) =
    enclosed '\x7d' (fun entries => .object (Table.ofPairs entries)) (fieldsAt bound) here := by
  rw [valueAt, value]
  split
  · next found =>
    rw [enclosed_closed found, unproved_ok]
    rfl
  · next isOpen =>
    rw [enclosed_open isOpen, fieldsAt]
    cases fields bound (skipSpace here) <;> rfl

theorem valueAt_scalar (plain : ∀ c ∈ here.head?, c ≠ '"' ∧ c ≠ '[' ∧ c ≠ '\x7b') :
    valueAt bound here = scalar bound here >>= fun (v, rest) =>
      if rest.length < here.length then .ok (v, rest) else .error .malformed := by
  unfold valueAt value
  split
  · exact absurd rfl (plain '"' rfl).1
  · exact absurd rfl (plain '[' rfl).2.1
  · exact absurd rfl (plain '\x7b' rfl).2.2
  · cases scalar bound here with
    | error failure => rfl
    | ok found =>
      dsimp only
      rw [ok_bind]
      split <;> rfl

theorem itemsAt_eq (here : List Char) : itemsAt bound here =
    valueAt bound here >>= fun (v, rest) => continued ']' (itemsAt bound) v rest := by
  rw [itemsAt, items, valueAt]
  cases value bound here with
  | error failure => rfl
  | ok found =>
    obtain ⟨v, rest, less⟩ := found
    simp only [unproved_ok, ok_bind]
    split
    · next found => rw [continued_closed found, unproved_ok]
    · next left found =>
      rw [continued_comma (by decide) found, itemsAt]
      cases items bound (skipSpace left) <;> rfl
    · next noBracket noComma =>
      rw [continued_refused noBracket noComma]
      rfl

theorem fieldsAt_eq (here : List Char) : fieldsAt bound here =
    match fieldName here with
    | none => .error .malformed
    | some (name, start) => valueAt bound start >>= fun (v, rest) =>
        continued '\x7d' (fieldsAt bound) (name, v) rest := by
  rw [fieldsAt, fields]
  cases fieldName here with
  | none => rfl
  | some found =>
    obtain ⟨name, start, less⟩ := found
    simp only [valueAt]
    cases value bound start with
    | error failure => rfl
    | ok found =>
      obtain ⟨v, rest, less⟩ := found
      simp only [unproved_ok, ok_bind]
      split
      · next found => rw [continued_closed found, unproved_ok]
      · next left found =>
        rw [continued_comma (by decide) found, fieldsAt]
        cases fields bound (skipSpace left) <;> rfl
      · next noBrace noComma =>
        rw [continued_refused noBrace noComma]
        rfl

section

variable {v : Json} {vs : List Json} {entries : Fields}

theorem valueAt_string_eq_ok : valueAt bound ('"' :: here) = .ok (v, rest) ↔
    ∃ text less, stringToken ('"' :: here) = some (text, ⟨rest, less⟩) ∧ v = .string text := by
  rw [valueAt_string]
  cases stringToken ('"' :: here) with
  | none =>
    constructor
    · rintro ⟨⟩
    · rintro ⟨_, _, ⟨⟩, -⟩
  | some found =>
    obtain ⟨text, behind, less⟩ := found
    constructor
    · rintro ⟨⟩
      exact ⟨text, less, rfl, rfl⟩
    · rintro ⟨_, _, ⟨⟩, rfl⟩
      rfl

theorem itemsAt_eq_ok : itemsAt bound here = .ok (vs, rest) ↔
    ∃ v behind, valueAt bound here = .ok (v, behind) ∧
      continued ']' (itemsAt bound) v behind = .ok (vs, rest) := by
  rw [itemsAt_eq, bind_eq_ok, Prod.exists]

theorem fieldsAt_eq_ok : fieldsAt bound here = .ok (entries, rest) ↔
    ∃ name start less v behind, fieldName here = some (name, ⟨start, less⟩) ∧
      valueAt bound start = .ok (v, behind) ∧
      continued '\x7d' (fieldsAt bound) (name, v) behind = .ok (entries, rest) := by
  rw [fieldsAt_eq]
  cases fieldName here with
  | none =>
    constructor
    · rintro ⟨⟩
    · rintro ⟨_, _, _, _, _, ⟨⟩, -⟩
  | some found =>
    obtain ⟨name, start, less⟩ := found
    dsimp only
    rw [bind_eq_ok, Prod.exists]
    constructor
    · rintro ⟨v, behind, isValue, further⟩
      exact ⟨name, start, less, v, behind, rfl, isValue, further⟩
    · rintro ⟨_, _, _, v, behind, ⟨⟩, isValue, further⟩
      exact ⟨v, behind, isValue, further⟩

theorem valueAt_scalar_eq_ok (plain : ∀ c ∈ here.head?, c ≠ '"' ∧ c ≠ '[' ∧ c ≠ '\x7b') :
    valueAt bound here = .ok (v, rest) ↔
      scalar bound here = .ok (v, rest) ∧ rest.length < here.length := by
  rw [valueAt_scalar plain, bind_eq_ok]
  constructor
  · rintro ⟨⟨v, rest⟩, isScalar, next⟩
    dsimp only at next
    split at next
    · next less =>
      cases next
      exact ⟨isScalar, less⟩
    · cases next
  · rintro ⟨isScalar, less⟩
    exact ⟨_, isScalar, if_pos less⟩

end

/-! ### In front of more -/

theorem endsNumber_of_skipSpace (ends : EndsNumber (skipSpace rest)) : EndsNumber rest := by
  cases rest with
  | nil => exact ends
  | cons c rest =>
    by_cases space : isSpace c
    · rintro _ ⟨⟩
      simp only [isSpace, Bool.or_eq_true, decide_eq_true_eq] at space
      rcases space with ((rfl | rfl) | rfl) | rfl <;> decide
    · rwa [skipSpace_cons (Bool.eq_false_iff.mpr space)] at ends

/-- What closes a value or separates it from the next one ends a number. -/
theorem endsNumber_of_found {c : Char} {left : List Char} (found : skipSpace behind = c :: left)
    (mark : c = ',' ∨ c = ']' ∨ c = '\x7d') : EndsNumber behind := by
  refine endsNumber_of_skipSpace ?_
  rw [found]
  rintro _ ⟨⟩
  rcases mark with rfl | rfl | rfl <;> decide

/-- Behind what is found less is left. -/
theorem length_lt_of_found {c : Char} {left : List Char} (found : skipSpace behind = c :: left) :
    (skipSpace left).length < behind.length := by
  have toLeft := length_skipSpace_le behind
  have fewer := length_skipSpace_le left
  rw [found, List.length_cons] at toLeft
  omega

section

variable {α : Type} {close : Char} {wrap : List α → Json} {first : α} {all : List α} {v : Json}
  {inside : List Char → Except JsonError (List α × List Char)}
  (nonempty : ∀ {start left all}, inside start = .ok (all, left) → start ≠ [])

include nonempty

/-- What is enclosed is read as the same in front of more if what is inside is. -/
theorem enclosed_append (textual : IsTextual close)
    (inside_append : ∀ {all}, inside (skipSpace here) = .ok (all, rest) →
      Passes (skipSpace here) rest ∧ inside (skipSpace here ++ more) = .ok (all, rest ++ more))
    (read : enclosed close wrap inside here = .ok (v, rest)) :
    Passes here rest ∧ enclosed close wrap inside (here ++ more) = .ok (v, rest ++ more) := by
  rcases enclosed_eq_ok.mp read with ⟨found, rfl⟩ | ⟨isOpen, all, isInside, rfl⟩
  · exact ⟨passes_found found textual, enclosed_closed (skipSpace_append_found found more)⟩
  · obtain ⟨c, left, starts⟩ := List.exists_cons_of_ne_nil (nonempty isInside)
    obtain ⟨passes, same⟩ := inside_append isInside
    have starts' := skipSpace_append_found starts more
    refine ⟨(passes_skipSpace here).trans passes, enclosed_eq_ok.mpr (.inr ⟨?_, all, ?_, rfl⟩)⟩
    · rw [starts']
      rintro _ ⟨⟩
      exact isOpen left starts
    · rwa [skipSpace_append (nonempty isInside)]

/-- What is behind the first one of several is read as the same in front of more if the others
are. -/
theorem continued_append (apart : close ≠ ',') (textual : IsTextual close)
    (inside_append : ∀ {left others}, skipSpace behind = ',' :: left →
      inside (skipSpace left) = .ok (others, rest) →
      Passes (skipSpace left) rest ∧ inside (skipSpace left ++ more) = .ok (others, rest ++ more))
    (read : continued close inside first behind = .ok (all, rest)) :
    Passes behind rest ∧
      continued close inside first (behind ++ more) = .ok (all, rest ++ more) := by
  rcases (continued_eq_ok apart).mp read with ⟨found, rfl⟩ | ⟨left, others, found, isInside, rfl⟩
  · exact ⟨passes_found found textual, continued_closed (skipSpace_append_found found more)⟩
  · obtain ⟨passes, same⟩ := inside_append found isInside
    rw [← skipSpace_append (nonempty isInside)] at same
    exact ⟨(passes_found found (by decide)).trans ((passes_skipSpace left).trans passes),
      (continued_eq_ok apart).mpr
        (.inr ⟨_, others, skipSpace_append_found found more, same, rfl⟩)⟩

end

/-- What goes on behind a value ends a number. -/
theorem endsNumber_of_continued {α : Type} {close : Char} {first : α} {all : List α}
    {inside : List Char → Except JsonError (List α × List Char)}
    (mark : close = ']' ∨ close = '\x7d')
    (read : continued close inside first behind = .ok (all, rest)) : EndsNumber behind := by
  have apart : close ≠ ',' := by rcases mark with rfl | rfl <;> decide
  rcases (continued_eq_ok apart).mp read with ⟨found, -⟩ | ⟨left, others, found, -⟩
  · exact endsNumber_of_found found (.inr mark)
  · exact endsNumber_of_found found (.inl rfl)

mutual

/-- **A value is read as the same in front of more.** A number has to end in front of it. -/
theorem valueAt_append {here rest : List Char} {v : Json} (ends : EndsNumber rest)
    (further : EndsNumber more) (read : valueAt bound here = .ok (v, rest)) :
    Passes here rest ∧ valueAt bound (here ++ more) = .ok (v, rest ++ more) := by
  obtain ⟨c, left, whole⟩ := List.exists_cons_of_ne_nil (ne_nil_of_unproved read)
  have shorter : 2 * (skipSpace left).length + 1 < 2 * here.length := by
    have fewer := length_skipSpace_le left
    rw [whole, List.length_cons]
    omega
  rw [whole] at read ⊢
  rw [List.cons_append]
  by_cases isText : c = '"'
  · subst isText
    obtain ⟨text, less, isString, rfl⟩ := valueAt_string_eq_ok.mp read
    obtain ⟨passes, same⟩ := stringToken_append more isString
    rw [List.cons_append] at same
    obtain ⟨less', same⟩ := same
    exact ⟨passes, valueAt_string_eq_ok.mpr ⟨text, less', same, rfl⟩⟩
  by_cases isArray : c = '['
  · subst isArray
    rw [valueAt_array] at read ⊢
    obtain ⟨passes, same⟩ := enclosed_append ne_nil_of_unproved (by decide)
      (fun isItems => itemsAt_append further isItems) read
    exact ⟨.cons (by decide) passes, same⟩
  by_cases isObject : c = '\x7b'
  · subst isObject
    rw [valueAt_object] at read ⊢
    obtain ⟨passes, same⟩ := enclosed_append ne_nil_of_unproved (by decide)
      (fun isFields => fieldsAt_append further isFields) read
    exact ⟨.cons (by decide) passes, same⟩
  have plain (left : List Char) : ∀ d ∈ (c :: left).head?, d ≠ '"' ∧ d ≠ '[' ∧ d ≠ '\x7b' := by
    rintro _ ⟨⟩
    exact ⟨isText, isArray, isObject⟩
  obtain ⟨isScalar, less⟩ := (valueAt_scalar_eq_ok (plain left)).mp read
  obtain ⟨passes, same⟩ := scalar_append ends further isScalar
  refine ⟨passes, (valueAt_scalar_eq_ok (plain _)).mpr ⟨same, ?_⟩⟩
  simp only [List.length_append, List.length_cons] at less ⊢
  omega
termination_by 2 * here.length
decreasing_by all_goals exact shorter

theorem itemsAt_append {here rest : List Char} {vs : List Json} (further : EndsNumber more)
    (read : itemsAt bound here = .ok (vs, rest)) :
    Passes here rest ∧ itemsAt bound (here ++ more) = .ok (vs, rest ++ more) := by
  obtain ⟨v, behind, isValue, goesOn⟩ := itemsAt_eq_ok.mp read
  have less := length_lt_of_unproved isValue
  obtain ⟨passes, same⟩ :=
    valueAt_append (endsNumber_of_continued (.inl rfl) goesOn) further isValue
  obtain ⟨passes', same'⟩ := continued_append ne_nil_of_unproved (by decide) (by decide)
    (fun found isItems =>
      have fewer := length_lt_of_found found
      itemsAt_append further isItems) goesOn
  exact ⟨passes.trans passes', itemsAt_eq_ok.mpr ⟨v, _, same, same'⟩⟩
termination_by 2 * here.length + 1

theorem fieldsAt_append {here rest : List Char} {entries : Fields} (further : EndsNumber more)
    (read : fieldsAt bound here = .ok (entries, rest)) :
    Passes here rest ∧ fieldsAt bound (here ++ more) = .ok (entries, rest ++ more) := by
  obtain ⟨name, start, less, v, behind, named, isValue, goesOn⟩ := fieldsAt_eq_ok.mp read
  obtain ⟨toStart, less', named'⟩ := fieldName_append more (ne_nil_of_unproved isValue) named
  have less := length_lt_of_unproved isValue
  obtain ⟨passes, same⟩ :=
    valueAt_append (endsNumber_of_continued (.inr rfl) goesOn) further isValue
  obtain ⟨passes', same'⟩ := continued_append ne_nil_of_unproved (by decide) (by decide)
    (fun found isFields =>
      have fewer := length_lt_of_found found
      fieldsAt_append further isFields) goesOn
  exact ⟨toStart.trans (passes.trans passes'),
    fieldsAt_eq_ok.mpr ⟨name, _, less', v, _, named', same, same'⟩⟩
termination_by 2 * here.length + 1

end

/-! ### Texts -/

theorem skipSpace_eq_nil : skipSpace here = [] ↔ ∀ c ∈ here, isSpace c := List.dropWhile_eq_nil_iff

/-- Space in front is passed over. -/
theorem skipSpace_append_space {space : List Char} (all : ∀ c ∈ space, isSpace c)
    (here : List Char) : skipSpace (space ++ here) = skipSpace here := by
  rw [skipSpace, skipSpace, List.dropWhile_append_of_pos all]

/-- Space ends a number. -/
theorem endsNumber_of_space (all : ∀ c ∈ rest, isSpace c) : EndsNumber rest :=
  endsNumber_of_skipSpace (by
    rw [skipSpace_eq_nil.mpr all]
    rintro _ ⟨⟩)

theorem unsignedNumber_ne_object {negative : Bool} {entries : Fields} :
    unsignedNumber bound negative here ≠ .ok (.object entries, rest) := by
  unfold unsignedNumber
  cases wholeDigits here with
  | none => rintro ⟨⟩
  | some parts =>
    simp only [expected, ok_bind]
    split
    · split <;> rintro ⟨⟩
    · rintro ⟨⟩

theorem scalar_ne_object {entries : Fields} : scalar bound here ≠ .ok (.object entries, rest) := by
  unfold scalar number
  iterate 5
    split
    · rintro ⟨⟩
  split
  · split
    · rintro ⟨⟩
    · exact unsignedNumber_ne_object
  · exact unsignedNumber_ne_object

/-- Objects begin with their brace. -/
theorem exists_brace {entries : Fields}
    (read : valueAt bound here = .ok (.object entries, rest)) : ∃ left, here = '\x7b' :: left := by
  obtain ⟨c, left, rfl⟩ := List.exists_cons_of_ne_nil (ne_nil_of_unproved read)
  by_cases isObject : c = '\x7b'
  · exact ⟨left, isObject ▸ rfl⟩
  by_cases isText : c = '"'
  · subst isText
    obtain ⟨_, _, -, ⟨⟩⟩ := valueAt_string_eq_ok.mp read
  by_cases isArray : c = '['
  · subst isArray
    rw [valueAt_array] at read
    obtain ⟨-, ⟨⟩⟩ | ⟨-, _, -, ⟨⟩⟩ := enclosed_eq_ok.mp read
  have plain : ∀ d ∈ (c :: left).head?, d ≠ '"' ∧ d ≠ '[' ∧ d ≠ '\x7b' := by
    rintro _ ⟨⟩
    exact ⟨isText, isArray, isObject⟩
  exact absurd ((valueAt_scalar_eq_ok plain).mp read).1 scalar_ne_object

/-- No value begins with a closing bracket. -/
theorem valueAt_bracket_refused {v : Json} (left : List Char) :
    valueAt bound (']' :: left) ≠ .ok (v, rest) := by
  intro read
  have refused : scalar bound (']' :: left) = .error .malformed := rfl
  have isScalar := ((valueAt_scalar_eq_ok (by rintro _ ⟨⟩; decide)).mp read).1
  rw [refused] at isScalar
  cases isScalar

end JsonReader

/-- A text holds a value if there is nothing but space around it. -/
theorem Json.parse?_eq_some {text : String} {v : Json} : Json.parse? text = some v ↔
    ∃ rest, JsonReader.valueAt (some maxIntegerDigits) (JsonReader.skipSpace text.toList) =
      .ok (v, rest) ∧ ∀ c ∈ rest, JsonReader.isSpace c := by
  rw [Json.parse?, Json.parse, Json.parseWithin, JsonReader.valueAt]
  cases JsonReader.value (some maxIntegerDigits) (JsonReader.skipSpace text.toList) with
  | error failure =>
    constructor
    · rintro ⟨⟩
    · rintro ⟨_, ⟨⟩, -⟩
  | ok found =>
    obtain ⟨v, left⟩ := found
    simp only [JsonReader.unproved_ok, ← JsonReader.skipSpace_eq_nil, List.isEmpty_iff]
    constructor
    · intro read
      split at read
      · next blank =>
        cases read
        exact ⟨left, rfl, blank⟩
      · cases read
    · rintro ⟨_, ⟨⟩, blank⟩
      rw [if_pos blank]
      rfl

end DocQuery
