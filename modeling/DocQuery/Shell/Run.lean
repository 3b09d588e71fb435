/-
**The program.**

* `Answer`: what the program writes, and how it ends;
* `runQuery`: a query over the documents of a file;
* `run`: the answer to a command line.

What is logged on the way is not part of an answer.
-/

import DocQuery.Log.Session
import DocQuery.Paging.Page
import DocQuery.Query.Execute
import DocQuery.Query.Read
import DocQuery.Shell.Input
import DocQuery.Shell.Request
import DocQuery.Shell.Settings
import DocQuery.Text.Control

namespace DocQuery

/-! ### Answers -/

/-- A failure that the program does not foresee. -/
inductive Breakdown where
  /-- A path holds the character zero. -/
  | zeroCharacter
  | query (cause : SyntaxError)
  | config (cause : ConfigError)
  | logging (cause : SetupError)
  | record (cause : LineError)
  | execution (cause : ExecutionError)

/-- How the program ends. -/
inductive Ending where
  | done
  | failed
  | misused
  | broken (cause : Breakdown)

/-- The number that tells how the program ended. -/
def Ending.code : Ending → Nat
  | .done => 0
  | .failed | .broken _ => 1
  | .misused => 2

/-- What the program writes, and how it ends. -/
structure Answer where
  /-- The lines of the result. -/
  output : List String := []
  /-- The lines beside the result. -/
  remarks : List String := []
  ending : Ending := .done

namespace Answer

/-- A failure with its message. -/
def failure (message : String) : Answer :=
  { remarks := ["[ERROR] " ++ message], ending := .failed }

/-- A complaint about the use of the program. -/
def misuse (form : Form) (error : UsageError) : Answer :=
  { remarks := form.complaint error, ending := .misused }

/-- A failure that is not foreseen. -/
def breakdown (cause : Breakdown) : Answer := { ending := .broken cause }

/-- The answer without control sequences. -/
def plain (answer : Answer) : Answer :=
  { answer with
    output := answer.output.map withoutControls
    remarks := answer.remarks.map withoutControls }

end Answer

/-- Goes on with a value, or ends with an answer. -/
abbrev Stage (α : Type) := Except Answer α

/-- Ends with a complaint if the program is used wrongly. -/
def Stage.ofUsage {α : Type} (form : Form) (outcome : Except UsageError α) : Stage α :=
  outcome.mapError (Answer.misuse form)

/-- Ends with a complaint or a breakdown if nothing that can be done is asked for. -/
def Stage.ofRequest {α : Type} (form : Form) (outcome : Except RequestError α) : Stage α :=
  outcome.mapError fun
    | .usage cause => Answer.misuse form cause
    | .zeroCharacter => Answer.breakdown .zeroCharacter

/-- The answer at which stages arrive. -/
def Stage.answer : Stage Answer → Answer
  | .ok answer => answer
  | .error answer => answer

/-! ### Failures -/

/-- What is answered to a failure of loading settings. -/
def ConfigError.answer (error : ConfigError) : Answer :=
  match error with
  | .unsupportedFormat _ | .badJson _ | .notNumber | .invalid _ =>
    .failure ("Invalid configuration: " ++ error.message)
  | _ => .breakdown (.config error)

/-- What is answered to a text that is no query. An integer with too many digits is not foreseen. -/
def SyntaxError.answer (error : SyntaxError) : Answer :=
  match error with
  | .lexical ⟨.oversizedInteger, _, _⟩ => .breakdown (.query error)
  | _ => .failure error.message

/-- What is answered to a failure of a query. -/
def ExecutionError.answer (error : ExecutionError) : Answer :=
  match error with
  | .parameters .notPair | .parameters .notIterable | .evaluation (.unsupportedArguments _)
  | .evaluation (.unreadableNumber _) => .breakdown (.execution error)
  | .parameters cause => .failure cause.message
  | .evaluation cause => .failure cause.message

/-! ### Commands -/

/-- What a level on the command line overrides in the settings. -/
def levelOverride (level : Option Level) : Json :=
  match level with
  | some level => .object [("logging", .object [("level", .string level.name)])]
  | none => .null

/-- The settings for a task. -/
def loadSettings (surroundings : Surroundings) (task : QueryTask) : Stage Settings :=
  (Manager.run {} (Manager.load surroundings task.config (levelOverride task.level))).1.mapError
    ConfigError.answer

/-- The file of lines when logging has been set up, which notes this itself. -/
def startLogFile (surroundings : Surroundings) (settings : Settings) :
    Except Breakdown (Option LogFile) := do
  let (logging, notices) ←
    (Logging.ofSetup surroundings settings.logging.setup (.zero false)).mapError .logging
  let lines ← notices.filterMapM fun (logging, record) =>
    (logging.write record).mapError .record
  return logging.file.map (lines.foldl LogFile.write)

/-- The surroundings when logging has been set up. -/
def startLogging (surroundings : Surroundings) (settings : Settings) : Stage Surroundings :=
  match startLogFile surroundings settings with
  | .ok (some file) => .ok { surroundings with files := surroundings.files.setAll file.contents }
  | .ok none => .ok surroundings
  | .error cause => .error (.breakdown cause)

/-- The parameters as a list of pairs. -/
def pairsJson (parameters : List (String × Json)) : Json :=
  .array (parameters.map fun (name, value) => .array [.string name, value])

/-- The text of a file that is known to be there. -/
def Surroundings.contents (surroundings : Surroundings) (path : String) : String :=
  (surroundings.read? (simplePath path)).getD ""

/-- The results of a query, or one page of them if a size or a token is given. -/
def pageOfResults (settings : Settings) (task : QueryTask) (results : List Json) :
    List Json × Option String :=
  let token := task.continuation.filter fun token => !token.isEmpty
  if task.pageSize.isNone && token.isNone then (results, none)
  else
    let p := page results (effectiveSize settings.query.pageSize task.pageSize) token
    (p.items, p.next)

/-- Runs a query over the documents of a file. -/
def runQuery (surroundings : Surroundings) (task : QueryTask) (data text : String) :
    Stage Answer := do
  let form := Form.ofCommand .query
  let settings ← loadSettings surroundings task
  let surroundings ← startLogging surroundings settings
  let parameters ← Stage.ofUsage form (task.parameters.mapM readParameter)
  let documents ← Stage.ofUsage form (readDocuments (surroundings.contents data))
  let query ← (Query.read text).mapError SyntaxError.answer
  let results ← (query.execute settings.query Registry.standard (pairsJson parameters)
    documents).mapError ExecutionError.answer
  let (items, next) := pageOfResults settings task (results.map .object)
  return { output := [(Json.array items).indented]
           remarks := (next.map fun token => "Continuation: " ++ token).toList }

/-- Prints a query in its normal form. -/
def runParse (text : String) : Answer :=
  match Query.read text with
  | .ok query => { output := [query.text] }
  | .error error => error.answer

/-- The version of the program. -/
def programVersion : String := "0.1.0"

/-- Runs a command. -/
def Command.run (command : Command) (surroundings : Surroundings) (words : List String) :
    Stage Answer := do
  let form := Form.ofCommand command
  let given ← Stage.ofUsage form (form.read words)
  if given.distinctFlags.contains .help then return { output := form.help }
  match command with
  | .parse =>
    let text ← Stage.ofUsage form (textOfQuery given)
    Stage.ofUsage form (noMoreThan 1 given)
    return runParse text
  | .query =>
    let task ← Stage.ofRequest form (QueryTask.ofGiven surroundings given)
    let text ← Stage.ofUsage form (textOfQuery given)
    let some data := task.data | .error (.misuse form (.flagMissing .data))
    Stage.ofUsage form (noMoreThan 1 given)
    runQuery surroundings task data text
  | .version =>
    Stage.ofUsage form (noMoreThan 0 given)
    return { output := ["LocalCosmos version " ++ programVersion] }

/-! ### The program -/

/-- The answer to the flags of the program itself, of which the first one counts. -/
def programAnswer? (given : Given) : Option Answer :=
  match given.flags with
  | (.version, _) :: _ => some { output := [Form.program.path ++ ", version " ++ programVersion] }
  | (.help, _) :: _ => some { output := Form.program.help }
  | _ => none

/-- The answer to words behind the flags of the program. Where they name no command they are looked
through for flags once more. -/
def runCommand (surroundings : Surroundings) : List String → Stage Answer
  | [] => .error (.misuse .program .commandMissing)
  | name :: words =>
    match Command.ofName? name with
    | some command => command.run surroundings words
    | none => do
      let given ← Stage.ofUsage .program (Form.program.read (name :: words))
      let similar := likeNames name (Command.all.map Command.name)
      return (programAnswer? given).getD (.misuse .program (.unknownCommand name similar))

/-- The answer to a command line, which may still hold control sequences. -/
def rawAnswer (surroundings : Surroundings) (words : List String) : Answer :=
  if words.isEmpty then { remarks := Form.program.help, ending := .misused }
  else Stage.answer do
    let given ← Stage.ofUsage .program (Form.program.read words)
    match programAnswer? given with
    | some answer => return answer
    | none => runCommand surroundings given.operands

/-- The answer to a command line. -/
def run (surroundings : Surroundings) (words : List String) : Answer :=
  (rawAnswer surroundings words).plain

end DocQuery
