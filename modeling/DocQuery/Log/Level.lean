/-
**Levels of log messages.**

* `Level`: how serious a message is, from details to breakdowns;
* `Level.ofName?`: the level with a given name;
* `thresholdOf`: the least level that is let through, as a setting names it in any case. Beside the
  names of the levels it knows two more, and one for no threshold at all. Two other names stand for
  something that is no level.
-/

import DocQuery.Text.Case

namespace DocQuery

/-- How serious a message is. -/
inductive Level where
  | debug
  | info
  | warning
  | error
  | critical
deriving DecidableEq, Repr

namespace Level

/-- The name of a level. -/
def name : Level → String
  | .debug => "DEBUG"
  | .info => "INFO"
  | .warning => "WARNING"
  | .error => "ERROR"
  | .critical => "CRITICAL"

/-- The place of a level among all. -/
def rank : Level → Nat
  | .debug => 10
  | .info => 20
  | .warning => 30
  | .error => 40
  | .critical => 50

/-- All levels. -/
def all : List Level := [.debug, .info, .warning, .error, .critical]

/-- The level with a name. -/
def ofName? (name : String) : Option Level := all.find? fun level => level.name == name

end Level

/-- The least level that is let through, and none where a superior decides. -/
abbrev Threshold := Option Level

/-- Why a name stands for no threshold. -/
inductive LevelError where
  | unknown
  /-- The name stands for the text of a format. -/
  | format
  /-- The name stands for a table of styles. -/
  | styles
deriving DecidableEq, Repr

/-- The threshold that a name stands for. -/
def thresholdOf (name : String) : Except LevelError Threshold :=
  let name := upperCase name
  if name = "NOTSET" then .ok none
  else if name = "WARN" then .ok (some .warning)
  else if name = "FATAL" then .ok (some .critical)
  else if name = "BASIC_FORMAT" then .error .format
  else if name = "_STYLES" then .error .styles
  else
    match Level.ofName? name with
    | some level => .ok (some level)
    | none => .error .unknown

end DocQuery
