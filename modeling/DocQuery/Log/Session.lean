/-
**Logging as it is set up.**

Loggers have names with points between their parts, and what holds for a logger holds for the ones
below it unless they have settings of their own. The root is above all of them.

* `LogSetup`: what is asked for, and `Logging.ofSetup`: the loggers that this leads to, with the
  records that are made on the way;
* `Logging.accepts`: whether a record is let through;
* `Logging.write`: the line for a record without secrets, if it is let through.
-/

import DocQuery.Log.File
import DocQuery.Log.Record
import DocQuery.Log.Size
import DocQuery.Surroundings

namespace DocQuery

/-- What is asked of logging. -/
structure LogSetup where
  level : String := "INFO"
  /-- The name of the format: `json`, or any other name for text. -/
  format : String := "text"
  /-- The file to which lines are also written. -/
  file : Option String := none
  rotationSize : String := "10MB"
  rotationCount : Int := 5
  /-- The levels of single loggers. -/
  moduleLevels : Table String := []

/-- Why logging cannot be set up. -/
inductive SetupError where
  | level (cause : LevelError)
  | size (cause : SizeError)
  | file (cause : FileError)
deriving DecidableEq, Repr

/-- The loggers. -/
structure Logging where
  root : Threshold
  /-- The loggers with a threshold of their own, except the root. -/
  thresholds : Table Threshold := []
  format : LogFormat
  /-- The file to which lines are also written. -/
  file : Option LogFile := none

/-! ### Names of loggers -/

/-- Whether a name is that of the root. -/
def isRootName (name : String) : Bool := name.isEmpty || name == "root"

/-- The name of the logger that is found under a name. -/
def loggerName (name : String) : String := if isRootName name then "root" else name

/-- The names of the loggers above a logger with the given name in front of them, the closest one
first. -/
def superiorsFrom : List Char → List Char → List (List Char)
  | _, [] => []
  | before, c :: rest =>
    superiorsFrom (before ++ [c]) rest ++ (if c = '.' ∧ before ≠ [] then [before] else [])

/-- A logger and the loggers above it, the closest one first. -/
def lineage (name : String) : List String :=
  name :: (superiorsFrom [] name.toList).map String.ofList

/-! ### Thresholds -/

namespace Logging

/-- The threshold that holds for a logger: the closest one that is set. -/
def thresholdFor (logging : Logging) (name : String) : Threshold :=
  if isRootName name then logging.root
  else
    match (lineage name).findSome? fun superior => (logging.thresholds.get? superior).join with
    | some level => some level
    | none => logging.root

/-- Whether a record is let through. -/
def accepts (logging : Logging) (name : String) (level : Level) : Bool :=
  match logging.thresholdFor name with
  | some threshold => threshold.rank ≤ level.rank
  | none => true

/-- Sets the threshold of a logger. -/
def setThreshold (logging : Logging) (name : String) (threshold : Threshold) : Logging :=
  if isRootName name then { logging with root := threshold }
  else { logging with thresholds := logging.thresholds.set name threshold }

/-- Sets the thresholds of loggers one after the other. -/
def setThresholds (logging : Logging) : Table String → Except SetupError Logging
  | [] => .ok logging
  | (name, level) :: more =>
    match thresholdOf level with
    | .ok threshold => setThresholds (logging.setThreshold name threshold) more
    | .error cause => .error (.level cause)

/-! ### Records -/

/-- The line for a record without secrets, if the record is let through. -/
def write (logging : Logging) (record : LogRecord) : Except LineError (Option String) :=
  if logging.accepts record.logger record.level then
    some <$> ({ record with logger := loggerName record.logger }).redacted.line logging.format
  else .ok none

/-- A record of the root about logging itself. -/
def notice (created : Binary64) (message : String) : LogRecord :=
  { created, level := .debug, logger := "root", message := .string message }

/-! ### Setup -/

/-- The file that a setup asks for, in a folder that is made if it is not there. -/
def setupFile (surroundings : Surroundings) (setup : LogSetup) :
    Except SetupError (Option LogFile) :=
  match setup.file with
  | some path => do
    let prepared ← (surroundings.prepareFolder path).mapError SetupError.file
    let limit ← (parseSize setup.rotationSize).mapError SetupError.size
    let (location, text) ← (prepared.openFile path).mapError SetupError.file
    return some { name := location.path, limit, kept := setup.rotationCount, text }
  | none => .ok none

/-- What is noted about a file. -/
def fileNotice (setup : LogSetup) (file : String) : String :=
  "Logging to file: " ++ file ++ " (rotation: " ++ setup.rotationSize ++ ", count: " ++
    toString setup.rotationCount ++ ")"

/-- The loggers that a setup leads to, with the records that are made on the way and the loggers as
they are at that time. -/
def ofSetup (surroundings : Surroundings) (setup : LogSetup) (created : Binary64) :
    Except SetupError (Logging × List (Logging × LogRecord)) := do
  let root ← (thresholdOf setup.level).mapError SetupError.level
  let file ← setupFile surroundings setup
  let first : Logging := { root, format := if setup.format = "json" then .json else .text, file }
  let final ← first.setThresholds setup.moduleLevels
  let fileNotices :=
    (setup.file.map fun file => (first, notice created (fileNotice setup file))).toList
  return (final, fileNotices ++
    [(final, notice created
      ("Logging configured: level=" ++ setup.level ++ ", format=" ++ setup.format))])

end Logging

end DocQuery
