/-
**Commands and their flags.**

* `Flag`: what may be given to a command by name, and `Command`: what the program can do;
* `Form`: what may stand behind a name on the command line, for the program itself and for each
  command.
-/

import DocQuery.Log.Level

namespace DocQuery

/-- What is given to the program or to a command by name. -/
inductive Flag where
  | version
  | data
  | parameter
  | config
  | pageSize
  | continuation
  | logLevel
  | help
deriving DecidableEq, Repr

namespace Flag

/-- The spellings of a flag: a long one, and a short one for some. -/
def names : Flag → List String
  | .version => ["--version"]
  | .data => ["--data", "-d"]
  | .parameter => ["--param", "-p"]
  | .config => ["--config", "-c"]
  | .pageSize => ["--max-item-count"]
  | .continuation => ["--continuation"]
  | .logLevel => ["--log-level"]
  | .help => ["--help"]

/-- Whether a name is a long one, with two signs in front. -/
def isLongName (name : String) : Bool := name.startsWith "--"

/-- What the value of a flag is called, for a flag that has one. -/
def valueName? : Flag → Option String
  | .data | .config => some "FILE"
  | .parameter | .continuation => some "TEXT"
  | .pageSize => some "INTEGER"
  | .logLevel =>
    some ("[" ++ "|".intercalate (Level.all.map fun level => foldCase level.name) ++ "]")
  | .version | .help => none

/-- What a flag is good for. -/
def purpose : Flag → String
  | .version => "Show the version and exit."
  | .data => "JSON file with an array of documents (or JSON Lines)  [required]"
  | .parameter => "Query parameter as name=value (value parsed as JSON when possible)"
  | .config => "Path to configuration file"
  | .pageSize => "Page size; prints a continuation token when more results remain"
  | .continuation => "Continuation token from a previous page"
  | .logLevel => "Logging level (overrides configuration)"
  | .help => "Show this message and exit."

/-- The spellings of a flag as messages give them. -/
def title (flag : Flag) : String :=
  " / ".intercalate (flag.names.map fun name => "'" ++ name ++ "'")

end Flag

/-- What the program can do. -/
inductive Command where
  | parse
  | query
  | version
deriving DecidableEq, Repr

namespace Command

/-- All commands. -/
def all : List Command := [.parse, .query, .version]

/-- The name of a command. -/
def name : Command → String
  | .parse => "parse"
  | .query => "query"
  | .version => "version"

/-- The command with a name. -/
def ofName? (name : String) : Option Command := all.find? fun command => command.name == name

/-- What a command does. -/
def summary : Command → String
  | .parse => "Parse a query and print its normalized form."
  | .query => "Run a query against documents from a JSON file."
  | .version => "Show LocalCosmos version."

end Command

/-! ### Forms -/

/-- What may stand behind a name on the command line. -/
structure Form where
  /-- The words that lead here. -/
  path : String
  flags : List Flag
  /-- Whether flags may also stand behind other words. -/
  mixed : Bool := true
  /-- How the words that are no flags are shown. -/
  operands : List String := []
  /-- The paragraphs of the description. -/
  description : List String
  /-- The commands that may follow. -/
  commands : List Command := []

namespace Form

/-- The form of the program itself. -/
def program : Form where
  path := "localcosmos"
  flags := [.version, .help]
  mixed := false
  operands := ["COMMAND", "[ARGS]..."]
  description := ["LocalCosmos - Local Azure Cosmos DB Query Emulator",
    "Parse and execute Cosmos DB SQL queries against local JSON data."]
  commands := Command.all

/-- What the text of a query is called. -/
def queryOperand : String := "SQL"

/-- The form of a command. -/
def ofCommand (command : Command) : Form :=
  let path := program.path ++ " " ++ command.name
  match command with
  | .parse =>
    { path, flags := [.help], operands := [queryOperand]
      description := [command.summary,
        "Examples:     localcosmos parse \"SELECT * FROM c WHERE c.age > 21\""] }
  | .query =>
    { path, operands := [queryOperand]
      flags := [.data, .parameter, .config, .pageSize, .continuation, .logLevel, .help]
      description := [command.summary,
        "Examples:     localcosmos query \"SELECT c.name FROM c WHERE c.age > @min\" " ++
          "-d people.json -p min=21     localcosmos query \"SELECT * FROM c ORDER BY c.name\" " ++
          "-d people.json --max-item-count 10"] }
  | .version => { path, flags := [.help], description := [command.summary] }

end Form

end DocQuery
