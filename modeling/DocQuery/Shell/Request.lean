/-
**What a command line asks for.**

* `QueryTask`: a query with all that is given along with it;
* `QueryTask.ofGiven`: the task that the words of a command line give. The flags are checked in the
  order in which they are given, then the text of the query, and what is missing after that;
* `textOfQuery`: the only word that a command with a query may have.
-/

import DocQuery.Config.Source
import DocQuery.Number.Numeral
import DocQuery.Shell.Words

namespace DocQuery

/-- Why a command line asks for nothing that can be done. -/
inductive RequestError where
  | usage (cause : UsageError)
  /-- A path holds the character zero. -/
  | zeroCharacter
deriving DecidableEq, Repr

/-! ### Files -/

/-- The path of a file that is there. -/
def Surroundings.existingFile (surroundings : Surroundings) (flag : Flag) (path : String) :
    Except RequestError String :=
  if hasZeroCharacter path then .error .zeroCharacter
  else
    match surroundings.find? path with
    | some .folder => .error (.usage (.fileIsFolder flag path))
    | some (.file _) => .ok path
    | none => .error (.usage (.fileMissing flag path))

/-! ### Tasks -/

/-- A query with all that is given along with it. -/
structure QueryTask where
  data : Option String := none
  parameters : List String := []
  config : Option String := none
  pageSize : Option Int := none
  continuation : Option String := none
  level : Option Level := none

/-- The level that a word names in any case. -/
def levelNamed? (word : String) : Option Level :=
  Level.all.find? fun level => foldCase level.name == foldCase word

namespace QueryTask

/-- Adds what a flag gives. Of several values the last one counts, except for parameters. -/
def accept (surroundings : Surroundings) (given : Given) (task : QueryTask) (flag : Flag) :
    Except RequestError QueryTask :=
  let values := given.values flag
  let value := values.getLastD ""
  match flag with
  | .data => do return { task with data := some (← surroundings.existingFile flag value) }
  | .config => do return { task with config := some (← surroundings.existingFile flag value) }
  | .parameter => .ok { task with parameters := values }
  | .continuation => .ok { task with continuation := some value }
  | .pageSize =>
    match integerText? value with
    | some size => .ok { task with pageSize := some size }
    | none => .error (.usage (.notInteger flag value))
  | .logLevel =>
    match levelNamed? value with
    | some level => .ok { task with level := some level }
    | none => .error (.usage (.notLevel flag value))
  | .version | .help => .ok task

/-- The task that the flags give. -/
def ofGiven (surroundings : Surroundings) (given : Given) : Except RequestError QueryTask :=
  given.distinctFlags.foldlM (accept surroundings given) {}

end QueryTask

/-! ### Queries -/

/-- The first word that is no flag, which is the text of a query. -/
def textOfQuery (given : Given) : Except UsageError String :=
  match given.operands with
  | [] => .error (.operandMissing Form.queryOperand)
  | text :: _ => .ok text

/-- Refuses words beyond the expected ones. -/
def noMoreThan (count : Nat) (given : Given) : Except UsageError Unit :=
  match given.operands.drop count with
  | [] => .ok ()
  | words => .error (.operandsLeft words)

end DocQuery
