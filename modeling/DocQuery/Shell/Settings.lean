/-
**Settings of a program that reads YAML in its simple form.**

* `readYaml`: the reader of YAML;
* `Manager.load`, `Manager.reload`: loading with it, and loading again from the same file.
-/

import DocQuery.Config.Manager
import DocQuery.Config.Yaml

namespace DocQuery

/-- Reads YAML in its simple form. -/
def readYaml : YamlReader := fun text =>
  match parseYaml? text with
  | some value => .ok value
  | none => .error .badYaml

namespace Manager

/-- Loads settings. -/
def load (surroundings : Surroundings) (file : Option String) (overrides : Json) : Step Settings :=
  loadUsing readYaml surroundings file overrides

/-- Loads settings again from the same file. -/
def reload (surroundings : Surroundings) : Step Settings := reloadUsing readYaml surroundings

end Manager

end DocQuery
