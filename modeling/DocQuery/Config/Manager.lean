/-
**Loading settings.**

Settings come from a file, from the environment and from whoever loads them, each of which overrides
those before it.

* `gatherSettings`: the settings of all three sources, not yet checked;
* `Manager`: the settings that were loaded last, and the file that they came from;
* `Manager.loadUsing`, `Manager.reloadUsing`, `Manager.current`: loading with a reader of YAML,
  loading again from the same file, and what was loaded.
-/

import DocQuery.Config.Merge
import DocQuery.Config.Settings
import DocQuery.Config.Source

namespace DocQuery

/-! ### Sources -/

/-- What the fields of a file of settings are. -/
def settingsFields : Json → Except ConfigError Fields
  | .object fields => .ok fields
  | .array _ => .error .notMapping
  | _ => .error .notCollection

/-- Settings with those that override them, if there are any. -/
def overrideFields (base : Fields) (overrides : Json) : Except ConfigError Fields :=
  if overrides.isEmptyLike then .ok base
  else
    match overrides with
    | .object fields => .ok (mergeFields base fields)
    | _ => .error .notCollection

/-- The settings of a file's value, the environment and the overrides, not yet checked. -/
def gatherSettings (surroundings : Surroundings) (base overrides : Json) :
    Except ConfigError Fields := do
  let environment ← environmentFields surroundings
  let fields ← settingsFields base
  overrideFields (mergeFields fields environment) overrides

/-! ### The manager -/

/-- The settings that were loaded last, and the file that was read last. -/
structure Manager where
  settings : Option Settings := none
  file : Option String := none

namespace Manager

/-- A step of the manager that may fail. What it did before it failed stays done. -/
abbrev Step (α : Type) := ExceptT ConfigError (StateM Manager) α

/-- The value of the file of settings, if there is one. -/
def readFile (readYaml : YamlReader) (surroundings : Surroundings) (file : Option String) :
    Step Json :=
  match file with
  | none => return .object []
  | some path => do
    let value ← readSettingsFile readYaml surroundings path
    modify fun manager => { manager with file := some (simplePath path) }
    return value

/-- Loads settings. -/
def loadUsing (readYaml : YamlReader) (surroundings : Surroundings) (file : Option String)
    (overrides : Json) : Step Settings := do
  let base ← readFile readYaml surroundings (file.filter fun path => !path.isEmpty)
  let fields ← gatherSettings surroundings base overrides
  let settings ← ((Settings.ofFields fields).toExcept.mapError ConfigError.invalid :
    Except ConfigError Settings)
  modify fun manager => { manager with settings := some settings }
  return settings

/-- Loads settings again from the same file. -/
def reloadUsing (readYaml : YamlReader) (surroundings : Surroundings) : Step Settings := do
  loadUsing readYaml surroundings (← get).file .null

/-- The settings that were loaded last. -/
def current : Step Settings := do
  match (← get).settings with
  | some settings => return settings
  | none => throw .notLoaded

/-- What a step answers, and the manager after it. -/
def run {α : Type} (manager : Manager) (step : Step α) : Except ConfigError α × Manager :=
  (ExceptT.run step).run manager

end Manager

end DocQuery
