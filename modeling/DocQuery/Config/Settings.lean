/-
**All settings.**

The settings of the program consist of a version, of those for logging and of those for queries.
`Settings.check` reads them from a JSON value, where everything that is left out has a default.
-/

import DocQuery.Log.Session
import DocQuery.Query.Settings

namespace DocQuery

/-! ### Logging -/

/-- The settings of logging. -/
structure LoggingSettings where
  level : Level := .info
  format : LogFormat := .text
  file : Option String := none
  rotationSize : String := "10MB"
  rotationCount : Int := 5
  moduleLevels : Option (Table String) := none

/-- The name of a format. -/
def LogFormat.name : LogFormat → String
  | .text => "text"
  | .json => "json"

/-- A level by its exact name. -/
def checkLevel : Check Level
  | .string name =>
    match Level.ofName? name with
    | some level => .valid level
    | none => .refuse .notChoice
  | _ => .refuse .notChoice

/-- A format by its exact name. -/
def checkFormat : Check LogFormat := fun value =>
  (Check.text value).andThen fun name =>
    if name = "json" then .valid .json
    else if name = "text" then .valid .text
    else .refuse (.refused "Log format must be 'json' or 'text'")

namespace LoggingSettings

/-- The settings that fields give. -/
def ofFields (fields : Fields) : Checked LoggingSettings :=
  let defaults : LoggingSettings := {}
  LoggingSettings.mk
    <$> (Label.plain "level").withDefault fields defaults.level checkLevel
    <*> (Label.plain "format").withDefault fields defaults.format checkFormat
    <*> (Label.plain "file").withDefault fields defaults.file (Check.optional Check.text)
    <*> (Label.plain "rotation_size").withDefault fields defaults.rotationSize Check.text
    <*> (Label.plain "rotation_count").withDefault fields defaults.rotationCount Check.integer
    <*> (Label.plain "module_levels").withDefault fields defaults.moduleLevels
      (Check.optional (Check.dictionaryOf Check.text))

/-- Reads settings. -/
def check : Check LoggingSettings := Check.record ofFields

/-- Writes settings. -/
def toJson (settings : LoggingSettings) : Json :=
  .object [("level", .string settings.level.name), ("format", .string settings.format.name),
    ("file", (settings.file.map Json.string).getD .null),
    ("rotation_size", .string settings.rotationSize),
    ("rotation_count", .int settings.rotationCount),
    ("module_levels", (settings.moduleLevels.map fun levels =>
      Json.object (levels.map fun (name, level) => (name, .string level))).getD .null)]

/-- What is asked of logging under the settings. An empty name stands for no file. -/
def setup (settings : LoggingSettings) : LogSetup where
  level := settings.level.name
  format := settings.format.name
  file := settings.file.filter fun name => !name.isEmpty
  rotationSize := settings.rotationSize
  rotationCount := settings.rotationCount
  moduleLevels := settings.moduleLevels.getD []

end LoggingSettings

/-! ### Versions -/

/-- A version: three numbers with points between them. -/
def checkVersion : Check String := fun value =>
  (Check.text value).andThen fun version =>
    let parts := splitAt '.' version.toList
    if parts.length ≠ 3 then .refuse (.refused "Version must be in format x.y.z")
    else if parts.all fun part => !part.isEmpty && part.all isDigitLike then .valid version
    else .refuse (.refused "Version components must be numeric")

/-! ### All settings -/

/-- The settings of the program. -/
structure Settings where
  version : String := "0.1.0"
  logging : LoggingSettings := {}
  query : QuerySettings := {}

namespace Settings

/-- The settings that fields give. -/
def ofFields (fields : Fields) : Checked Settings :=
  let defaults : Settings := {}
  Settings.mk
    <$> (Label.plain "version").withDefault fields defaults.version checkVersion
    <*> (Label.plain "logging").withDefault fields defaults.logging LoggingSettings.check
    <*> (Label.plain "query").withDefault fields defaults.query QuerySettings.check

/-- Reads settings. -/
def check : Check Settings := Check.record ofFields

/-- Writes settings. -/
def toJson (settings : Settings) : Json :=
  .object [("version", .string settings.version), ("logging", settings.logging.toJson),
    ("query", .object settings.query.toFields)]

end Settings

end DocQuery
