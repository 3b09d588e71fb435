/-
**Parameters bind the last value that is given for a name.**

* `assignments?`: the names and values that parameters give, whether they are an object, pairs, or
  objects with a name and a value;
* `bindParameters_eq_ok`: parameters are accepted exactly if they give names and values, and no name
  is empty but for signs;
* `lastValue?`: the last value given for a name, with or without the sign in front of it;
* `parameterOf_bindParameters`: the value of a parameter is the last one given, and it is missing if
  there is none.
-/

import DocQuery.Proofs.Except
import DocQuery.Proofs.Table
import DocQuery.Query.Evaluate
import DocQuery.Query.Parameters

namespace DocQuery

/-! ### Names and values as they are given -/

/-- The name and the value that an entry gives. -/
def assignment? : Json → Option (String × Json)
  | .array [.string name, value] => some (name, value)
  | .object fields =>
    match Table.get? fields "name" with
    | some (.string name) => some (name, (Table.get? fields "value").getD .null)
    | _ => none
  | .string text =>
    match text.toList with
    | [name, value] => some (name.toString, .string value.toString)
    | _ => none
  | _ => none

/-- The names and values that parameters give. -/
def assignments? (given : Json) : Option (List (String × Json)) :=
  if given.isEmptyLike then some []
  else
    match given with
    | .object fields => some fields
    | .array entries => entries.mapM assignment?
    | _ => none

/-- A name is more than signs. -/
def IsNamed (name : String) : Prop := ∃ c ∈ name.toList, c ≠ '@'

instance : DecidablePred IsNamed := fun name =>
  inferInstanceAs (Decidable (∃ c ∈ name.toList, c ≠ '@'))

/-- The last value given for a name, with or without the sign in front of it. -/
def lastValue? (assigned : List (String × Json)) (name : String) : Option Json :=
  (assigned.reverse.find? fun entry => entry.1 == name || entry.1 == "@" ++ name).map Prod.snd

/-- The operand that a parameter stands for. -/
def assignedOperand (assigned : List (String × Json)) (name : String) : Operand :=
  match lastValue? assigned name with
  | some value => .json value
  | none => .missing

/-! ### Names -/

/-- A name without the sign in front of it. -/
def bareName (name : String) : String :=
  match name.toList with
  | '@' :: rest => String.ofList rest
  | _ => name

theorem bareName_eq_iff {given name : String} (plain : name.toList.head? ≠ some '@') :
    bareName given = name ↔ given = name ∨ given = "@" ++ name := by
  have sign : ("@" ++ name).toList = '@' :: name.toList := String.toList_append
  unfold bareName
  split
  · next rest signed =>
    have unequal : given ≠ name := by
      rintro rfl
      exact plain (congrArg List.head? signed)
    have behind : String.ofList rest = name ↔ given = "@" ++ name := by
      rw [← String.toList_inj, ← String.toList_inj, String.toList_ofList, signed, sign]
      exact ⟨congrArg ('@' :: ·), fun same => (List.cons.inj same).2⟩
    exact behind.trans (or_iff_right unequal).symm
  · next unsigned =>
    have unequal : given ≠ "@" ++ name := by
      rintro rfl
      exact unsigned _ sign
    exact (or_iff_left unequal).symm

theorem parameterName_string {given : String} (named : IsNamed given) :
    parameterName (.string given) = .ok (bareName given) := by
  obtain ⟨c, member, noSign⟩ := named
  have some : given.toList.all (· == '@') = false :=
    List.all_eq_false.mpr ⟨c, member, by simpa using noSign⟩
  rw [parameterName, some, bareName]
  generalize given.toList = cs
  simp only [Bool.false_eq_true, if_false]
  cases cs with
  | nil => rfl
  | cons first rest =>
    by_cases sign : first = '@'
    · subst sign
      rfl
    · grind

theorem parameterName_eq_ok {name : Json} {bare : String} :
    parameterName name = .ok bare ↔
      ∃ given, name = .string given ∧ IsNamed given ∧ bareName given = bare := by
  constructor
  · intro found
    cases name with
    | string given =>
      have named : IsNamed given := by
        rw [parameterName] at found
        split at found
        · cases found
        · next some => simpa [IsNamed] using some
      rw [parameterName_string named] at found
      cases found
      exact ⟨given, rfl, named, rfl⟩
    | null | bool _ | int _ | float _ | array _ | object _ => cases found
  · rintro ⟨given, rfl, named, rfl⟩
    exact parameterName_string named

/-! ### Entries -/

/-- A given name and value as an entry. -/
def entryOf (assigned : String × Json) : Json × Json := (.string assigned.1, assigned.2)

theorem entryOf_inj {assigned other : String × Json} :
    entryOf assigned = entryOf other ↔ assigned = other := by
  simp only [entryOf, Json.string.injEq, Prod.ext_iff]

/-- The value that is bound by a given name and value. -/
def boundEntry (assigned : String × Json) : String × Json := (bareName assigned.1, assigned.2)

theorem bindAll_eq_ok {bound result : Fields} {entries : List (Json × Json)} :
    bindAll bound entries = .ok result ↔ ∃ assigned : List (String × Json),
      entries = assigned.map entryOf ∧ (∀ entry ∈ assigned, IsNamed entry.1) ∧
        Table.setAll bound (assigned.map boundEntry) = result := by
  induction entries generalizing bound with
  | nil =>
    rw [bindAll, Except.ok.injEq]
    constructor
    · rintro rfl
      exact ⟨[], rfl, fun _ member => absurd member List.not_mem_nil, rfl⟩
    · rintro ⟨assigned, none, -, rfl⟩
      rw [List.map_eq_nil_iff.mp none.symm]
      rfl
  | cons entry more ih =>
    rw [bindAll, bind_eq_ok]
    constructor
    · rintro ⟨bare, isName, found⟩
      obtain ⟨given, isGiven, named, rfl⟩ := parameterName_eq_ok.mp isName
      obtain ⟨assigned, rfl, all, rfl⟩ := ih.mp found
      refine ⟨(given, entry.2) :: assigned, ?_, List.forall_mem_cons.mpr ⟨named, all⟩, rfl⟩
      rw [List.map_cons, entryOf, ← isGiven]
    · rintro ⟨assigned, split, all, rfl⟩
      obtain ⟨⟨given, value⟩, others, rfl, rfl, rfl⟩ := List.map_eq_cons_iff.mp split.symm
      obtain ⟨named, all⟩ := List.forall_mem_cons.mp all
      exact ⟨_, parameterName_string named, ih.mpr ⟨others, rfl, all, rfl⟩⟩

theorem parameterEntry_eq_ok {entry : Json} {assigned : String × Json} :
    parameterEntry entry = .ok (entryOf assigned) ↔ assignment? entry = some assigned := by
  obtain ⟨name, value⟩ := assigned
  rw [entryOf]
  unfold parameterEntry assignment?
  constructor <;> intro found
  · split at found <;> grind
  · split at found <;> grind

theorem mapM_parameterEntry_eq_ok {entries : List Json} {assigned : List (String × Json)} :
    entries.mapM parameterEntry = .ok (assigned.map entryOf) ↔
      entries.mapM assignment? = some assigned := by
  induction entries generalizing assigned with
  | nil => cases assigned <;> simp [pure, Except.pure]
  | cons entry more ih =>
    rw [List.mapM_cons, List.mapM_cons, bind_eq_ok, Option.bind_eq_bind, Option.bind_eq_some_iff]
    constructor
    · rintro ⟨first, isFirst, found⟩
      obtain ⟨others, isOthers, found⟩ := bind_eq_ok.mp found
      obtain ⟨given, rest, rfl, rfl, rfl⟩ := List.map_eq_cons_iff.mp (Except.ok.inj found).symm
      exact ⟨given, parameterEntry_eq_ok.mp isFirst, by rw [ih.mp isOthers]; rfl⟩
    · rintro ⟨given, isGiven, found⟩
      obtain ⟨others, isOthers, found⟩ := Option.bind_eq_some_iff.mp found
      cases found
      exact ⟨_, parameterEntry_eq_ok.mpr isGiven, by rw [ih.mpr isOthers]; rfl⟩

theorem parameterEntries_eq_ok {given : Json} {assigned : List (String × Json)} :
    parameterEntries given = .ok (assigned.map entryOf) ↔ assignments? given = some assigned := by
  have empty : Except.ok ([] : List (Json × Json)) =
      (.ok (assigned.map entryOf) : Except ParameterError _) ↔ some [] = some assigned := by
    rw [Except.ok.injEq, Option.some.injEq, eq_comm, List.map_eq_nil_iff, eq_comm]
  unfold parameterEntries assignments?
  split
  · exact empty
  · cases given with
    | object fields =>
      show Except.ok (fields.map entryOf) = .ok (assigned.map entryOf) ↔ some fields = some assigned
      rw [Except.ok.injEq, Option.some.injEq, List.map_inj_right fun _ _ => entryOf_inj.mp]
    | array entries => exact mapM_parameterEntry_eq_ok
    | null | bool _ | int _ | float _ | string _ => exact ⟨nofun, nofun⟩

/-- **Parameters are accepted exactly if they give names and values**, and no name is empty but for
signs. The values are then added one after the other. -/
theorem bindParameters_eq_ok {given : Json} {bound : Fields} :
    bindParameters given = .ok bound ↔ ∃ assigned, assignments? given = some assigned ∧
      (∀ entry ∈ assigned, IsNamed entry.1) ∧ Table.ofPairs (assigned.map boundEntry) = bound := by
  rw [bindParameters, bind_eq_ok]
  constructor
  · rintro ⟨entries, isEntries, found⟩
    obtain ⟨assigned, rfl, all, rfl⟩ := bindAll_eq_ok.mp found
    exact ⟨assigned, parameterEntries_eq_ok.mp isEntries, all, rfl⟩
  · rintro ⟨assigned, isAssigned, all, rfl⟩
    exact ⟨_, parameterEntries_eq_ok.mpr isAssigned, bindAll_eq_ok.mpr ⟨assigned, rfl, all, rfl⟩⟩

/-! ### Values -/

/-- **A parameter is bound to the last value** that is given for its name. -/
theorem get?_bindParameters {given : Json} {bound : Fields} {assigned : List (String × Json)}
    (accepted : bindParameters given = .ok bound) (isAssigned : assignments? given = some assigned)
    {name : String} (plain : name.toList.head? ≠ some '@') :
    bound.get? name = lastValue? assigned name := by
  obtain ⟨others, isOthers, -, rfl⟩ := bindParameters_eq_ok.mp accepted
  cases isAssigned.symm.trans isOthers
  have names (entry : String × Json) : ((boundEntry entry).1 == name) =
      (entry.1 == name || entry.1 == "@" ++ name) := by
    rw [Bool.eq_iff_iff, Bool.or_eq_true, beq_iff_eq, beq_iff_eq, beq_iff_eq]
    exact bareName_eq_iff plain
  rw [Table.get?_ofPairs, ← List.map_reverse, List.find?_map, Option.map_map,
    show (fun entry : String × Json => entry.1 == name) ∘ boundEntry =
      fun entry => entry.1 == name || entry.1 == "@" ++ name from funext names]
  rfl

theorem parameterOf_bindParameters {given : Json} {bound : Fields}
    {assigned : List (String × Json)} (accepted : bindParameters given = .ok bound)
    (isAssigned : assignments? given = some assigned) {name : String}
    (plain : name.toList.head? ≠ some '@') :
    parameterOf bound name = assignedOperand assigned name := by
  rw [parameterOf, get?_bindParameters accepted isAssigned plain]
  rfl

end DocQuery
