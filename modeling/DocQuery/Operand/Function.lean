/-
**Functions of conditions.**

Five tests of operands, and the names under which they are called.

* `textTest`: a test of two texts, with or without regard to case. An absent operand fails it;
* `Builtin.apply`: the five functions;
* `Registry`: functions by name. A name is looked up in upper case, and a later registration of a
  name replaces an earlier one;
* `Registry.call`: looks a name up, checks the number of arguments and applies the function.
-/

import DocQuery.Operand.Basic

namespace DocQuery

/-- The functions there are. -/
inductive Builtin where
  | contains
  | startsWith
  | arrayContains
  | isNull
  | isDefined
deriving DecidableEq, Repr

/-! ### The functions -/

/-- Whether the argument behind the required ones asks for case to be ignored. -/
def ignoresCase (flags : List Operand) : Bool :=
  match flags with
  | flag :: _ => flag.toBool? == some true
  | [] => false

/-- The folded text of an operand, if it is not absent. -/
def foldedText? (operand : Operand) : Option String := operand.toText?.map foldCase

/-- A test of a text against a pattern, of which neither may be absent. -/
def textTest (test : List Char → List Char → Bool) (subject pattern : Operand)
    (flags : List Operand) : Bool :=
  match subject.toText?, pattern.toText? with
  | some text, some word =>
    if ignoresCase flags then test (foldCase text).toList (foldCase word).toList
    else test text.toList word.toList
  | _, _ => false

/-- Whether a text occurs in another. -/
def contains (subject pattern : Operand) (flags : List Operand) : Bool :=
  textTest (fun text word => isInfix word text) subject pattern flags

/-- Whether a text begins with another. -/
def beginsWith (subject pattern : Operand) (flags : List Operand) : Bool :=
  textTest startsWith subject pattern flags

/-- Whether the text of an element is that of an operand, without regard to case. -/
def arrayContains (collection wanted : Operand) : Bool :=
  match collection.elements? with
  | some elements =>
    !wanted.isMissing && elements.any fun element => foldedText? element == foldedText? wanted
  | none => false

namespace Builtin

/-- The name under which a function is registered from the start. -/
def name : Builtin → String
  | .contains => "CONTAINS"
  | .startsWith => "STARTSWITH"
  | .arrayContains => "ARRAY_CONTAINS"
  | .isNull => "IS_NULL"
  | .isDefined => "IS_DEFINED"

/-- The arity with which a function is registered from the start. -/
def arity : Builtin → Arity
  | .contains | .startsWith => ⟨2, 3⟩
  | .arrayContains => ⟨2, 2⟩
  | .isNull | .isDefined => ⟨1, 1⟩

/-- Applies a function. There is no result for a number of arguments that it cannot take. -/
def apply : Builtin → List Operand → Option Bool
  | .contains, subject :: pattern :: flags => some (DocQuery.contains subject pattern flags)
  | .startsWith, subject :: pattern :: flags => some (beginsWith subject pattern flags)
  | .arrayContains, [collection, wanted] => some (DocQuery.arrayContains collection wanted)
  | .isNull, [operand] => some operand.isAbsent
  | .isDefined, [operand] => some !operand.isMissing
  | _, _ => none

/-- All functions in the order of their registration. -/
def all : List Builtin := [.contains, .startsWith, .arrayContains, .isNull, .isDefined]

end Builtin

/-! ### The registry -/

/-- A registered function. -/
structure Registration where
  /-- The name in upper case. -/
  name : String
  builtin : Builtin
  arity : Arity
deriving DecidableEq, Repr

/-- The registered functions, each name once. -/
abbrev Registry := List Registration

namespace Registry

/-- The registration of a name. -/
def lookup? (registry : Registry) (name : String) : Option Registration :=
  registry.find? fun registration => registration.name == upperCase name

/-- Registers a function, in place of an earlier one of the same name. -/
def register (registry : Registry) (name : String) (builtin : Builtin) (arity : Arity) : Registry :=
  let entry : Registration := ⟨upperCase name, builtin, arity⟩
  if (registry.lookup? name).isSome then
    registry.map fun registration => if registration.name == entry.name then entry else registration
  else registry ++ [entry]

/-- The functions that are there from the start. -/
def standard : Registry := Builtin.all.map fun builtin => ⟨builtin.name, builtin, builtin.arity⟩

/-- The registered functions in the order of their names. -/
def sorted (registry : Registry) : List Registration :=
  registry.mergeSort fun first second => decide (first.name ≤ second.name)

/-- Calls a function by its name. -/
def call (registry : Registry) (name : String) (arguments : List Operand) :
    Except EvaluationError Bool :=
  match registry.lookup? name with
  | none => .error (.unknownFunction name)
  | some registration =>
    if registration.arity.accepts arguments.length then
      match registration.builtin.apply arguments with
      | some result => .ok result
      | none => .error (.unsupportedArguments name)
    else .error (.argumentCount name (upperCase name) registration.arity arguments.length)

end Registry

end DocQuery
