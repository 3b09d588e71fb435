/-
**What is said about the use of the program.**

* `UsageError`: why a command line cannot be followed, with its message;
* `Form.usage`: the line that shows how a command is used;
* `Form.help`: the page that describes it;
* `Form.complaint`: what is said where it is used wrongly.
-/

import DocQuery.Shell.Flag
import DocQuery.Text.Quoted
import DocQuery.Text.Wrap

namespace DocQuery

/-! ### Errors -/

/-- Why a command line cannot be followed. -/
inductive UsageError where
  /-- No flag has this name. The other names are like it. -/
  | unknownFlag (name : String) (similar : List String)
  | valueMissing (name : String)
  | valueNeedless (name : String)
  | commandMissing
  /-- No command has this name. The other names are like it. -/
  | unknownCommand (name : String) (similar : List String)
  | operandMissing (operand : String)
  | operandsLeft (words : List String)
  | flagMissing (flag : Flag)
  | fileMissing (flag : Flag) (path : String)
  | fileIsFolder (flag : Flag) (path : String)
  | notInteger (flag : Flag) (value : String)
  | notLevel (flag : Flag) (value : String)
  /-- A parameter is not written as a name and a value. -/
  | parameterForm (given : String)
  | parameterNameless (given : String)
  /-- The documents are neither one JSON value nor one to a line. -/
  | dataUnreadable
  /-- Some of the documents are no objects. -/
  | dataNotObjects
deriving DecidableEq, Repr

namespace UsageError

/-- The names that may have been meant. -/
def suggestion : List String → String
  | [] => ""
  | [name] => " Did you mean " ++ quote name ++ "?"
  | names => " (Did you mean one of: " ++ ", ".intercalate (names.map quote) ++ "?)"

/-- What is wrong with the value of a flag. -/
def invalid (title reason : String) : String := "Invalid value for " ++ title ++ ": " ++ reason

/-- The message of an error. -/
def message : UsageError → String
  | .unknownFlag name similar => "No such option " ++ quote name ++ "." ++ suggestion similar
  | .valueMissing name => "Option " ++ quote name ++ " requires an argument."
  | .valueNeedless name => "Option " ++ quote name ++ " does not take a value."
  | .commandMissing => "Missing command."
  | .unknownCommand name similar => "No such command " ++ quote name ++ "." ++ suggestion similar
  | .operandMissing operand => "Missing argument '" ++ operand ++ "'."
  | .operandsLeft words =>
    "Got unexpected extra argument" ++ (if words.length = 1 then "" else "s") ++ " (" ++
      " ".intercalate words ++ ")"
  | .flagMissing flag => "Missing option " ++ flag.title ++ "."
  | .fileMissing flag path => invalid flag.title ("File " ++ quote path ++ " does not exist.")
  | .fileIsFolder flag path => invalid flag.title ("File " ++ quote path ++ " is a directory.")
  | .notInteger flag value => invalid flag.title (quote value ++ " is not a valid integer.")
  | .notLevel flag value =>
    invalid flag.title (quote value ++ " is not one of " ++
      ", ".intercalate (Level.all.map fun level => quote (foldCase level.name)) ++ ".")
  | .parameterForm given => invalid "--param" ("Expected name=value, got " ++ quote given)
  | .parameterNameless given => invalid "--param" ("Parameter name is empty in " ++ quote given)
  | .dataUnreadable => invalid "--data" "Data file is not JSON or JSON Lines"
  | .dataNotObjects => invalid "--data" "Data file must contain JSON objects"

/-- Whether an error is told without a hint at how the command is used. -/
def isBare : UsageError → Bool
  | .valueMissing _ | .valueNeedless _ => true
  | _ => false

end UsageError

/-! ### Help -/

/-- The width of a page. -/
def pageWidth : Nat := 78

/-- The width from which on the left column of a list does not grow. -/
def columnLimit : Nat := 30

/-- The spaces that fill up a number of columns. -/
def spaces (count : Nat) : String := String.ofList (List.replicate count ' ')

/-- The lines of a list with two columns, one entry after the other. A term that does not fit has a
line of its own. -/
def columns (rows : List (String × String)) : List String :=
  let second := min ((rows.map fun row => row.1.length).foldl max 0) columnLimit + 2
  rows.flatMap fun (term, text) =>
    let lines := wrap (pageWidth - second - 2) text
    let margin := spaces (second + 2)
    if term.length + 2 ≤ second then
      (spaces 2 ++ term ++ spaces (second - term.length) ++ lines.headD "") ::
        lines.tail.map (margin ++ ·)
    else (spaces 2 ++ term) :: lines.map (margin ++ ·)

/-- A flag with its value, the short name first. -/
def Flag.term (flag : Flag) : String :=
  ", ".intercalate flag.names.reverse ++ (flag.valueName?.map (" " ++ ·)).getD ""

namespace Form

/-- The line that shows how a command is used. -/
def usage (form : Form) : String :=
  "Usage: " ++ " ".intercalate (form.path :: "[OPTIONS]" :: form.operands)

/-- A list with a title, unless it is empty. -/
def listed (title : String) (rows : List (String × String)) : List String :=
  if rows.isEmpty then [] else "" :: (title ++ ":") :: columns rows

/-- The page that describes a command. -/
def help (form : Form) : List String :=
  form.usage ::
    (form.description.flatMap fun text =>
      "" :: (wrap (pageWidth - 2) text).map (spaces 2 ++ ·)) ++
    listed "Options" (form.flags.map fun flag => (flag.term, flag.purpose)) ++
    listed "Commands" (form.commands.map fun command => (command.name, command.summary))

/-- What is said where a command is used wrongly. -/
def complaint (form : Form) (error : UsageError) : List String :=
  (if error.isBare then [] else [form.usage, "Try '" ++ form.path ++ " --help' for help.", ""]) ++
    ["Error: " ++ error.message]

end Form

end DocQuery
