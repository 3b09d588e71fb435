/-
**Where settings come from.**

* `ConfigError`: why settings cannot be loaded;
* `YamlReader`: a reader of YAML, which whoever loads settings has to bring along;
* `readSettingsFile`: the value that a file of settings holds. The end of its name tells how it is
  written;
* `environmentFields`: the settings that the environment gives.
-/

import DocQuery.Json.Reader
import DocQuery.Number.Numeral
import DocQuery.Schema.Issue
import DocQuery.Surroundings
import DocQuery.Text.Case

namespace DocQuery

/-- Why settings cannot be loaded. -/
inductive ConfigError where
  | fileMissing (path : String)
  /-- The path, or one of its names, is too long. -/
  | pathTooLong (path : String)
  | unsupportedFormat (ending : String)
  /-- The path leads to a folder. -/
  | fileIsFolder (path : String)
  /-- The file holds no JSON. -/
  | badJson (cause : JsonError)
  /-- The file holds no YAML. -/
  | badYaml
  /-- A number in the environment cannot be read. -/
  | notNumber
  /-- The file holds a list. -/
  | notMapping
  /-- The file or the overriding settings hold a single value. -/
  | notCollection
  | invalid (issues : List Issue)
  | notLoaded
deriving DecidableEq, Repr

/-- The message of a failure. -/
def ConfigError.message : ConfigError → String
  | .fileMissing path => "Configuration file not found: " ++ path
  | .pathTooLong path => "Path too long: " ++ path
  | .unsupportedFormat ending => "Unsupported config file format: " ++ ending
  | .fileIsFolder path => "Configuration file is a folder: " ++ path
  | .badJson _ | .badYaml => "Unreadable configuration file"
  | .notNumber => "Not a number"
  | .notMapping | .notCollection => "Settings are an object"
  | .invalid issues =>
    toString issues.length ++ " validation error" ++ (if issues.length = 1 then "" else "s") ++
      " for LocalCosmosConfig"
  | .notLoaded => "Configuration not loaded. Call load() first."

/-! ### Files -/

/-- The characters from the last point on, and none if no point stands inside a name. -/
def endingOf (name : List Char) : List Char :=
  let tail := (name.reverse.takeWhile (· != '.')).reverse
  let stem := name.length - tail.length
  if tail.isEmpty || stem < 2 then [] else '.' :: tail

/-- The end of a file's name that tells its format. -/
def fileEnding (path : String) : String :=
  match (pathNames path).getLast? with
  | some name => String.ofList (endingOf name.toList)
  | none => ""

/-- A reader of YAML gives the value that a text holds, or the cause why it holds none. -/
abbrev YamlReader := String → Except ConfigError Json

/-- The value that a file of settings holds. An empty one in YAML holds an empty object. -/
def readSettingsFile (readYaml : YamlReader) (surroundings : Surroundings) (path : String) :
    Except ConfigError Json :=
  let place := simplePath path
  match surroundings.find? place with
  | none =>
    .error (if !hasZeroCharacter place && surroundings.isTooLong place then .pathTooLong path
      else .fileMissing path)
  | some .folder => .error (.fileIsFolder path)
  | some (.file text) =>
    let ending := fileEnding path
    if ending = ".yaml" ∨ ending = ".yml" then
      (readYaml text).map fun value => if value.isEmptyLike then .object [] else value
    else if ending = ".json" then (Json.parse text).mapError .badJson
    else .error (.unsupportedFormat ending)

/-! ### Environment -/

/-- The value of a variable that is set and not empty. -/
def Surroundings.variable? (surroundings : Surroundings) (name : String) : Option String :=
  (surroundings.environment.get? name).filter fun value => !value.isEmpty

/-- The setting that a variable gives, if it gives one. -/
def variableField (surroundings : Surroundings) (variableName setting : String)
    (read : String → Option Json) : Except ConfigError Fields :=
  match surroundings.variable? variableName with
  | none => .ok []
  | some text =>
    match read text with
    | some value => .ok [(setting, value)]
    | none => .error .notNumber

/-- The parts of a list with commas, without white space around them and without empty ones. -/
def listParts (text : String) : List String :=
  ((splitOn ',' text).map trim).filter fun part => !part.isEmpty

/-- An object with a name, unless it has no fields. -/
def namedObject (name : String) (fields : Fields) : Fields :=
  if fields.isEmpty then [] else [(name, .object fields)]

/-- The settings that the environment gives. -/
def environmentFields (surroundings : Surroundings) : Except ConfigError Fields := do
  let level ← variableField surroundings "LOCALCOSMOS_LOG_LEVEL" "level"
    fun text => some (.string (upperCase text))
  let format ← variableField surroundings "LOCALCOSMOS_LOG_FORMAT" "format"
    fun text => some (.string (lowerCase text))
  let file ← variableField surroundings "LOCALCOSMOS_LOG_FILE" "file"
    fun text => some (.string text)
  let aliases ← variableField surroundings "LOCALCOSMOS_IMPLICIT_ALIASES" "implicit_aliases"
    fun text => some (.array ((listParts text).map .string))
  let tolerance ← variableField surroundings "LOCALCOSMOS_EQUALITY_TOLERANCE" "equality_tolerance"
    fun text => (numberText? text).map .float
  let pageSize ← variableField surroundings "LOCALCOSMOS_MAX_ITEM_COUNT" "default_max_item_count"
    fun text => (integerText? text).map .int
  return namedObject "logging" (level ++ format ++ file) ++
    namedObject "query" (aliases ++ tolerance ++ pageSize)

end DocQuery
