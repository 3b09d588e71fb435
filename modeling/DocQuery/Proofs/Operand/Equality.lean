/-
**Structural equality, and what it confuses.**

* `Json.IsProper`: no number in a value is NaN, and no object has two fields of one name;
* `Json.SameBy`: arrays are the same item by item and objects field by field, in any order, texts,
  truth values and null if they are identical, and numbers if their values are. What counts as a
  number is a parameter: `SameBy number?` is to be the same JSON value, and in `SameBy numeric?` a
  truth value counts as 0 or 1;
* `Json.same_iff`: structural equality is `SameBy numeric?`;
* `Json.Confused`: somewhere a truth value stands in the place of a number. `sameBy_number?_iff`
  says that this is all in which the two relations differ;
* `Comparison.equal_containers`: equality of arrays and objects.
-/

import DocQuery.Operand.Comparison
import DocQuery.Proofs.Number.Value
import DocQuery.Proofs.Table
import Mathlib.Data.List.Perm.Subperm

namespace DocQuery

/-- A table with distinct keys that has as many entries as another one, and each of them there too,
has the same keys. -/
theorem Table.length_eq_and_forall_iff {α : Type} {table other : Table α} {relation : α → α → Prop}
    (distinct : table.Distinct) (distinct' : other.Distinct) :
    (table.length = other.length ∧ ∀ entry ∈ table, ∃ found,
        other.get? entry.1 = some found ∧ relation entry.2 found) ↔
      (∀ name, name ∈ table.keys ↔ name ∈ other.keys) ∧ ∀ (name : String) (value found : α),
        table.get? name = some value → other.get? name = some found → relation value found := by
  have lengths : table.keys.length = other.keys.length ↔ table.length = other.length := by
    rw [keys, keys, List.length_map, List.length_map]
  constructor
  · rintro ⟨sameLength, each⟩
    have within : table.keys ⊆ other.keys := by
      intro name member
      obtain ⟨entry, inTable, rfl⟩ := List.mem_map.mp member
      obtain ⟨found, isFound, -⟩ := each entry inTable
      exact mem_keys.mpr ⟨found, isFound⟩
    have permutes : table.keys.Perm other.keys :=
      (List.subperm_of_subset distinct within).perm_of_length_le
        (Nat.le_of_eq (lengths.mpr sameLength).symm)
    refine ⟨fun name => permutes.mem_iff, fun name value found isValue isFound => ?_⟩
    obtain ⟨found', isFound', related⟩ := each _ (mem_of_get? isValue)
    cases isFound.symm.trans isFound'
    exact related
  · rintro ⟨names, each⟩
    refine ⟨lengths.mp ((List.perm_ext_iff_of_nodup distinct distinct').mpr names).length_eq,
      fun entry member => ?_⟩
    have isValue := distinct.get?_of_mem member
    obtain ⟨found, isFound⟩ := mem_keys.mp ((names entry.1).mp (mem_keys.mpr ⟨_, isValue⟩))
    exact ⟨found, isFound, each _ _ _ isValue isFound⟩

namespace Json

/-- A value without NaN, in whose objects all names are distinct. -/
inductive IsProper : Json → Prop
  | null : IsProper .null
  | bool (truth : Bool) : IsProper (.bool truth)
  | int (number : Int) : IsProper (.int number)
  | float {number : Binary64} (defined : number ≠ .nan) : IsProper (.float number)
  | string (text : String) : IsProper (.string text)
  | array {items : List Json} (each : ∀ item ∈ items, IsProper item) : IsProper (.array items)
  | object {fields : Fields} (distinct : fields.Distinct)
    (each : ∀ field ∈ fields, IsProper field.2) : IsProper (.object fields)

/-- Two values are the same, where numbers are compared by the values that they are given. -/
inductive SameBy (valueOf : Json → Option Extended) : Json → Json → Prop
  | null : SameBy valueOf .null .null
  | bool (truth : Bool) : SameBy valueOf (.bool truth) (.bool truth)
  | string (text : String) : SameBy valueOf (.string text) (.string text)
  | number {value other : Json} {x : Extended} (isFirst : valueOf value = some x)
    (isSecond : valueOf other = some x) : SameBy valueOf value other
  | array {items others : List Json} (lengths : items.length = others.length)
    (each : ∀ (place : Nat) (item other : Json), items[place]? = some item →
      others[place]? = some other → SameBy valueOf item other) :
    SameBy valueOf (.array items) (.array others)
  | object {fields others : Fields} (names : ∀ name, name ∈ fields.keys ↔ name ∈ others.keys)
    (each : ∀ (name : String) (value other : Json), fields.get? name = some value →
      others.get? name = some other → SameBy valueOf value other) :
    SameBy valueOf (.object fields) (.object others)

/-- The value of a number, or of a truth value that counts as 0 or 1. -/
def numeric? : Json → Option Extended
  | .bool truth => some (integerValue truth.toNat)
  | value => value.number?

/-! ### Numbers and truth values -/

/-- Whether a value is a number or a truth value. -/
def isNumeric : Json → Bool
  | .bool _ | .int _ | .float _ => true
  | _ => false

variable {value other : Json}

theorem IsProper.exists_numeric? (proper : value.IsProper) (isNumeric : value.isNumeric) :
    ∃ x, value.numeric? = some x := by
  cases proper with
  | bool | int => exact ⟨_, rfl⟩
  | float defined => exact Binary64.exists_value? defined
  | null | string | array | object => cases isNumeric

theorem isNumeric_of_same (same : value.same other) : value.isNumeric = other.isNumeric := by
  cases value <;> cases other <;> first | rfl | cases same

theorem equalInt_iff {n : Int} {x : Binary64} {a : Extended} (isValue : x.value? = some a) :
    equalInt n x ↔ integerValue n = a := by
  have defined : x ≠ .nan := by
    rintro rfl
    cases isValue
  rw [equalInt, Binary64.compareInt_eq n isValue, Bool.and_eq_true_iff, bne_iff_ne, beq_iff_eq,
    cmp_eq_eq_iff]
  exact and_iff_right defined

/-- Numbers and truth values are equal exactly if their values are. -/
theorem same_iff_of_numeric? {x y : Extended} (isFirst : value.numeric? = some x)
    (isSecond : other.numeric? = some y) : value.same other ↔ x = y := by
  have integers {m n : Int} : (m == n) = true ↔ integerValue m = integerValue n :=
    beq_iff_eq.trans integerValue_inj.symm
  cases value with
  | null | string | array | object => cases isFirst
  | bool truth =>
    cases isFirst
    cases other with
    | null | string | array | object => cases isSecond
    | bool truth' =>
      cases isSecond
      rw [integerValue_inj]
      cases truth <;> cases truth' <;> decide
    | int n => cases isSecond; exact integers
    | float y => exact equalInt_iff isSecond
  | int m =>
    cases isFirst
    cases other with
    | null | string | array | object => cases isSecond
    | bool | int => cases isSecond; exact integers
    | float y => exact equalInt_iff isSecond
  | float x =>
    cases other with
    | null | string | array | object => cases isSecond
    | bool | int => cases isSecond; exact (equalInt_iff isFirst).trans eq_comm
    | float y =>
      have undefined : (x == .nan && y == .nan) = false := by
        refine Bool.and_eq_false_iff.mpr (.inl (beq_eq_false_iff_ne.mpr ?_))
        rintro rfl
        cases isFirst
      rw [same, undefined, Bool.or_false]
      exact Binary64.same_iff isFirst isSecond

theorem SameBy.numeric?_eq (same : SameBy numeric? value other) :
    value.numeric? = other.numeric? := by
  cases same with
  | null | bool | string | array | object => rfl
  | number isFirst isSecond => exact isFirst.trans isSecond.symm

theorem same_iff_of_isNumeric (proper : value.IsProper) (proper' : other.IsProper)
    (numeric : value.isNumeric) : value.same other ↔ SameBy numeric? value other := by
  obtain ⟨x, isFirst⟩ := proper.exists_numeric? numeric
  constructor
  · intro same
    obtain ⟨y, isSecond⟩ := proper'.exists_numeric? (isNumeric_of_same same ▸ numeric)
    cases (same_iff_of_numeric? isFirst isSecond).mp same
    exact .number isFirst isSecond
  · intro same
    exact (same_iff_of_numeric? isFirst (same.numeric?_eq.symm.trans isFirst)).mpr rfl

/-! ### Arrays and objects -/

mutual

/-- **Structural equality is to be the same**, where a truth value counts as a number. -/
theorem same_iff : (value other : Json) → value.IsProper → other.IsProper →
    (value.same other ↔ SameBy numeric? value other)
  | .null, other, _, _ => by
    cases other with
    | null => exact iff_of_true rfl .null
    | _ => exact iff_of_false nofun fun same => by cases same with | number isFirst => cases isFirst
  | .string text, other, _, _ => by
    cases other with
    | string text' =>
      constructor
      · intro same
        cases eq_of_beq same
        exact .string text
      · intro same
        cases same with
        | string => exact beq_self_eq_true text
        | number isFirst => cases isFirst
    | _ => exact iff_of_false nofun fun same => by cases same with | number isFirst => cases isFirst
  | .bool _, _, proper, proper' | .int _, _, proper, proper' | .float _, _, proper, proper' =>
    same_iff_of_isNumeric proper proper' rfl
  | .array items, other, .array each, proper' => by
    cases proper' with
    | array each' =>
      refine (sameItems_iff items _ each each').trans
        ⟨fun found => .array found.1 found.2, fun same => ?_⟩
      cases same with
      | array lengths each => exact ⟨lengths, each⟩
      | number isFirst => cases isFirst
    | _ => exact iff_of_false nofun fun same => by cases same with | number isFirst => cases isFirst
  | .object fields, other, .object distinct each, proper' => by
    cases proper' with
    | object distinct' each' =>
      rw [same, Bool.and_eq_true_iff, beq_iff_eq, sameFields_iff fields _ each each',
        Table.length_eq_and_forall_iff distinct distinct']
      refine ⟨fun found => .object found.1 found.2, fun same => ?_⟩
      cases same with
      | object names each => exact ⟨names, each⟩
      | number isFirst => cases isFirst
    | _ => exact iff_of_false nofun fun same => by cases same with | number isFirst => cases isFirst

theorem sameItems_iff : (items others : List Json) → (∀ item ∈ items, item.IsProper) →
    (∀ other ∈ others, other.IsProper) →
    (sameItems items others ↔ items.length = others.length ∧ ∀ (place : Nat) (item other : Json),
      items[place]? = some item → others[place]? = some other → SameBy numeric? item other)
  | [], [], _, _ => iff_of_true rfl ⟨rfl, fun _ _ _ found => by cases found⟩
  | [], _ :: _, _, _ => iff_of_false nofun fun found => by cases found.1
  | _ :: _, [], _, _ => iff_of_false nofun fun found => by cases found.1
  | item :: more, other :: others, each, each' => by
    obtain ⟨proper, properMore⟩ := List.forall_mem_cons.mp each
    obtain ⟨proper', properOthers⟩ := List.forall_mem_cons.mp each'
    rw [sameItems, Bool.and_eq_true_iff, same_iff item other proper proper',
      sameItems_iff more others properMore properOthers, List.length_cons, List.length_cons,
      Nat.add_right_cancel_iff]
    constructor
    · rintro ⟨same, lengths, sameMore⟩
      refine ⟨lengths, fun place found found' isFound isFound' => ?_⟩
      cases place with
      | zero =>
        cases isFound
        cases isFound'
        exact same
      | succ place => exact sameMore place found found' isFound isFound'
    · rintro ⟨lengths, same⟩
      exact ⟨same 0 item other rfl rfl, lengths, fun place => same (place + 1)⟩

theorem sameFields_iff : (fields : List (String × Json)) → (others : Fields) →
    (∀ field ∈ fields, field.2.IsProper) → (∀ field ∈ others, field.2.IsProper) →
    (sameFields fields others ↔ ∀ field ∈ fields, ∃ found,
      others.get? field.1 = some found ∧ SameBy numeric? field.2 found)
  | [], _, _, _ => iff_of_true rfl fun _ member => by cases member
  | (name, value) :: more, others, each, each' => by
    obtain ⟨proper, properMore⟩ := List.forall_mem_cons.mp each
    rw [sameFields, Bool.and_eq_true_iff, sameFields_iff more others properMore each',
      List.forall_mem_cons]
    refine and_congr_left fun _ => ?_
    cases isFound : Table.get? others name with
    | none => exact iff_of_false nofun fun ⟨_, isOther, _⟩ => by cases isOther
    | some other =>
      have proper' := each' _ (Table.mem_of_get? isFound)
      constructor
      · intro same
        exact ⟨other, rfl, (same_iff value other proper proper').mp same⟩
      · rintro ⟨_, ⟨⟩, same⟩
        exact (same_iff value other proper proper').mpr same

end

theorem SameBy.symm {valueOf : Json → Option Extended} (same : SameBy valueOf value other) :
    SameBy valueOf other value := by
  induction same with
  | null => exact .null
  | bool truth => exact .bool truth
  | string text => exact .string text
  | number isFirst isSecond => exact .number isSecond isFirst
  | array lengths _ ih =>
    exact .array lengths.symm fun place item other isItem isOther =>
      ih place other item isOther isItem
  | object names _ ih =>
    exact .object (fun name => (names name).symm) fun name value other isValue isOther =>
      ih name other value isOther isValue

theorem IsProper.sameBy_self (proper : value.IsProper) : SameBy numeric? value value := by
  induction proper with
  | null => exact .null
  | bool truth => exact .bool truth
  | string text => exact .string text
  | int number => exact .number rfl rfl
  | float defined =>
    obtain ⟨x, isValue⟩ := Binary64.exists_value? defined
    exact .number isValue isValue
  | array _ ih =>
    refine .array rfl fun place item other isItem isOther => ?_
    cases isItem.symm.trans isOther
    exact ih item (List.mem_of_getElem? isItem)
  | object _ _ ih =>
    refine .object (fun _ => Iff.rfl) fun name value other isValue isOther => ?_
    cases isValue.symm.trans isOther
    exact ih _ (Table.mem_of_get? isValue)

/-! ### Truth values in the places of numbers -/

/-- Somewhere in two values one has a truth value and the other one a number. -/
inductive Confused : Json → Json → Prop
  | left (truth : Bool) {number : Json} {x : Extended} (isNumber : number.number? = some x) :
    Confused (.bool truth) number
  | right {number : Json} {x : Extended} (isNumber : number.number? = some x) (truth : Bool) :
    Confused number (.bool truth)
  | item {items others : List Json} {place : Nat} {item other : Json}
    (isItem : items[place]? = some item) (isOther : others[place]? = some other)
    (confused : Confused item other) : Confused (.array items) (.array others)
  | field {fields others : Fields} {name : String} {value other : Json}
    (isValue : fields.get? name = some value) (isOther : others.get? name = some other)
    (confused : Confused value other) : Confused (.object fields) (.object others)

theorem numeric?_of_number? {x : Extended} (isNumber : value.number? = some x) :
    value.numeric? = some x := by
  cases value with
  | bool => cases isNumber
  | _ => exact isNumber

theorem numeric?_eq_some {x : Extended} (isNumeric : value.numeric? = some x) :
    (∃ truth : Bool, value = .bool truth ∧ integerValue truth.toNat = x) ∨
      value.number? = some x := by
  cases value with
  | bool truth => exact .inl ⟨truth, rfl, Option.some.inj isNumeric⟩
  | _ => exact .inr isNumeric

theorem toNat_inj_integerValue {truth truth' : Bool}
    (same : integerValue truth.toNat = integerValue truth'.toNat) : truth = truth' := by
  have toNat := integerValue_inj.mp same
  cases truth <;> cases truth' <;> first | rfl | cases toNat

/-- **Only truth values are confused**, and only with numbers. -/
theorem sameBy_number?_iff :
    SameBy number? value other ↔ SameBy numeric? value other ∧ ¬ Confused value other := by
  constructor
  · intro same
    induction same with
    | null => exact ⟨.null, nofun⟩
    | bool truth =>
      refine ⟨.bool truth, fun confused => ?_⟩
      cases confused with
      | left _ isNumber | right isNumber => cases isNumber
    | string text => exact ⟨.string text, nofun⟩
    | number isFirst isSecond =>
      refine ⟨.number (numeric?_of_number? isFirst) (numeric?_of_number? isSecond),
        fun confused => ?_⟩
      cases confused with
      | left | item | field => cases isFirst
      | right => cases isSecond
    | array lengths _ ih =>
      refine ⟨.array lengths fun _ _ _ isItem isOther => (ih _ _ _ isItem isOther).1, ?_⟩
      rintro (_ | _ | ⟨isItem, isOther, confused⟩)
      exact (ih _ _ _ isItem isOther).2 confused
    | object names _ ih =>
      refine ⟨.object names fun _ _ _ isValue isOther => (ih _ _ _ isValue isOther).1, ?_⟩
      rintro (_ | _ | _ | ⟨isValue, isOther, confused⟩)
      exact (ih _ _ _ isValue isOther).2 confused
  · rintro ⟨same, apart⟩
    induction same with
    | null => exact .null
    | bool truth => exact .bool truth
    | string text => exact .string text
    | number isFirst isSecond =>
      obtain ⟨truth, rfl, rfl⟩ | isFirst := numeric?_eq_some isFirst <;>
        obtain ⟨truth', rfl, same⟩ | isSecond := numeric?_eq_some isSecond
      · cases toNat_inj_integerValue same
        exact .bool truth
      · exact (apart (.left truth isSecond)).elim
      · exact (apart (.right isFirst truth')).elim
      · exact .number isFirst isSecond
    | array lengths _ ih =>
      exact .array lengths fun _ _ _ isItem isOther =>
        ih _ _ _ isItem isOther fun confused => apart (.item isItem isOther confused)
    | object names _ ih =>
      exact .object names fun _ _ _ isValue isOther =>
        ih _ _ _ isValue isOther fun confused => apart (.field isValue isOther confused)

/-- Whether a value is an array or an object. -/
def isContainer : Json → Bool
  | .array _ | .object _ => true
  | _ => false

end Json

namespace Comparison

open Json

/-- Arrays and objects are compared by structure. -/
theorem equal_of_isContainer (settings : Comparison) {left right : Json}
    (isContainer : left.isContainer) (isContainer' : right.isContainer) :
    settings.equal (.json left) (.json right) = .ok (left.same right) := by
  cases left with
  | array | object =>
    cases right with
    | array | object => rfl
    | null | bool | int | float | string => cases isContainer'
  | null | bool | int | float | string => cases isContainer

/-- **Equality of arrays and objects** always has a verdict: they are equal exactly if they are the
same where truth values count as 0 and 1. So they are the same JSON value exactly if they are equal
and nowhere a truth value of one stands in the place of a number of the other. -/
theorem equal_containers (settings : Comparison) {left right : Json}
    (isContainer : left.isContainer) (isContainer' : right.isContainer) (proper : left.IsProper)
    (proper' : right.IsProper) :
    (settings.equal (.json left) (.json right) = .ok true ↔ SameBy numeric? left right) ∧
    (settings.equal (.json left) (.json right) = .ok false ↔ ¬ SameBy numeric? left right) ∧
    (SameBy number? left right ↔
      settings.equal (.json left) (.json right) = .ok true ∧ ¬ Confused left right) := by
  have verdict (truth : Bool) :
      settings.equal (.json left) (.json right) = .ok truth ↔ left.same right = truth := by
    rw [equal_of_isContainer settings isContainer isContainer', Except.ok.injEq]
  rw [verdict, verdict, ← Bool.not_eq_true, same_iff left right proper proper']
  exact ⟨Iff.rfl, Iff.rfl, sameBy_number?_iff⟩

/-- An object with an array that holds a number and a truth value. -/
def truthInside : Fields := [("a", .array [.int 1, .bool true]), ("b", .null)]

/-- An object with the same fields in another order, and with numbers only. -/
def numberInside : Fields := [("b", .null), ("a", .array [.float (.ofInt 1), .int 1])]

/-- Two objects that are equal although they are not the same JSON value. -/
theorem equal_containers_inside :
    (Json.object truthInside).IsProper ∧ (Json.object numberInside).IsProper ∧
    SameBy numeric? (.object truthInside) (.object numberInside) ∧
    ¬ SameBy number? (.object truthInside) (.object numberInside) := by
  have items : (Json.array [.int 1, .bool true]).IsProper :=
    .array (List.forall_mem_cons.mpr ⟨.int 1, List.forall_mem_singleton.mpr (.bool true)⟩)
  have items' : (Json.array [.float (.ofInt 1), .int 1]).IsProper :=
    .array (List.forall_mem_cons.mpr
      ⟨.float (by decide +kernel), List.forall_mem_singleton.mpr (.int 1)⟩)
  have proper : (Json.object truthInside).IsProper :=
    .object (show truthInside.keys.Nodup by decide)
      (List.forall_mem_cons.mpr ⟨items, List.forall_mem_singleton.mpr .null⟩)
  have proper' : (Json.object numberInside).IsProper :=
    .object (show numberInside.keys.Nodup by decide)
      (List.forall_mem_cons.mpr ⟨.null, List.forall_mem_singleton.mpr items'⟩)
  obtain ⟨equal, -, same⟩ :=
    equal_containers ⟨defaultTolerance, compareOperands⟩ rfl rfl proper proper'
  have inside : Confused (.array [.int 1, .bool true]) (.array [.float (.ofInt 1), .int 1]) :=
    @Confused.item _ _ 1 _ _ rfl rfl (.left true rfl)
  have confused : Confused (.object truthInside) (.object numberInside) :=
    @Confused.field _ _ "a" _ _ rfl rfl inside
  exact ⟨proper, proper', equal.mp (by decide +kernel), fun found => (same.mp found).2 confused⟩

/-- A truth value inside an array is taken for a number. -/
theorem equal_confused :
    equal ⟨defaultTolerance, compareOperands⟩ (.json (.array [.bool true]))
        (.json (.array [.int 1])) = .ok true ∧
      ¬ SameBy number? (.array [.bool true]) (.array [.int 1]) := by
  refine ⟨rfl, fun same => (sameBy_number?_iff.mp same).2 ?_⟩
  exact @Confused.item _ _ 0 _ _ rfl rfl (.left true rfl)

end Comparison

end DocQuery
