/-
**The words of a command line.**

* `Given`: the flags that words give, with their values, and the words that are no flags;
* `readWords`: what words give.

A flag has its value in the next word, or behind an equals sign in the same word, or, if its name is
short, right behind the name. All words behind `--` are no flags.
-/

import DocQuery.Shell.Usage
import DocQuery.Text.Likeness

namespace DocQuery

/-- What the words of a command line give. -/
structure Given where
  /-- The flags in the order of the words, with an empty value for a flag that has none. -/
  flags : List (Flag × String) := []
  /-- The words that are no flags. -/
  operands : List String := []

namespace Given

/-- The values of a flag. -/
def values (given : Given) (flag : Flag) : List String :=
  (given.flags.filter fun entry => entry.1 = flag).map Prod.snd

/-- The given flags, each of them once. -/
def distinctFlags (given : Given) : List Flag := (given.flags.map Prod.fst).eraseDups

end Given

/-- What one word gives: flags, and the flag whose value is in the next word, with its name. -/
structure WordFlags where
  complete : List (Flag × String) := []
  awaiting : Option (Flag × String) := none

/-- Whether a word gives flags. -/
def isFlagWord (word : String) : Bool := word.startsWith "-" && word.length > 1

/-- The flag with a name. -/
def findFlag? (flags : List Flag) (name : String) : Option Flag :=
  flags.find? fun flag => flag.names.contains name

/-- What a word with the long name of a flag gives. -/
def longFlag (flag : Flag) (name : String) (value : Option String) : Except UsageError WordFlags :=
  match flag.valueName?, value with
  | some _, some value => .ok { complete := [(flag, value)] }
  | some _, none => .ok { awaiting := some (flag, name) }
  | none, some _ => .error (.valueNeedless name)
  | none, none => .ok { complete := [(flag, "")] }

/-- What the characters behind a single sign give: short names, and behind the name of a flag with a
value this value. -/
def shortFlags (flags : List Flag) : List Char → Except UsageError WordFlags
  | [] => .ok {}
  | c :: rest =>
    let name := String.ofList ['-', c]
    match findFlag? flags name with
    | none => .error (.unknownFlag name [])
    | some flag =>
      match flag.valueName?, rest with
      | some _, [] => .ok { awaiting := some (flag, name) }
      | some _, _ :: _ => .ok { complete := [(flag, String.ofList rest)] }
      | none, _ => do
        let more ← shortFlags flags rest
        return { more with complete := (flag, "") :: more.complete }

/-- A word up to the first equals sign, and what stands behind it. -/
def splitValue (word : String) : String × Option String :=
  let cs := word.toList
  (String.ofList (cs.takeWhile (· != '=')),
    match cs.dropWhile (· != '=') with
    | [] => none
    | _ :: value => some (String.ofList value))

/-- What a word gives. -/
def wordFlags (flags : List Flag) (word : String) : Except UsageError WordFlags :=
  let (name, value) := splitValue word
  let longNames := (flags.flatMap Flag.names).filter Flag.isLongName
  match (if Flag.isLongName name then findFlag? flags name else none) with
  | some flag => longFlag flag name value
  | none =>
    if Flag.isLongName word then .error (.unknownFlag name (likeNames name longNames))
    else shortFlags flags (word.toList.drop 1)

/-- What words give. Without mixed flags all words from the first other word on are no flags. -/
def readWords (flags : List Flag) (mixed : Bool) : List String → Except UsageError Given
  | [] => .ok {}
  | word :: rest =>
    if word = "--" then .ok { operands := rest }
    else if isFlagWord word then do
      let found ← wordFlags flags word
      match found.awaiting, rest with
      | none, rest =>
        let given ← readWords flags mixed rest
        return { given with flags := found.complete ++ given.flags }
      | some (_, name), [] => .error (.valueMissing name)
      | some (flag, _), value :: rest =>
        let given ← readWords flags mixed rest
        return { given with flags := found.complete ++ (flag, value) :: given.flags }
    else if mixed then do
      let given ← readWords flags mixed rest
      return { given with operands := word :: given.operands }
    else .ok { operands := word :: rest }

/-- What words give under a form. -/
def Form.read (form : Form) (words : List String) : Except UsageError Given :=
  readWords form.flags form.mixed words

end DocQuery
