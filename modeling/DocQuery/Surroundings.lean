/-
**The files and the environment in which the program runs.**

A path is a sequence of names with slashes between them. It starts in the folder in which the
program runs, or with a slash in front in the topmost folder. A location is where a path leads to
when every name is entered in turn and `..` leaves a folder again.

* `Surroundings`: the files by their locations, and the variables of the environment. A folder is
  there if something is known below it;
* `Surroundings.find?`: what a path leads to. All but its last name must lead to folders;
* `Surroundings.prepareFolder`, `Surroundings.openFile`: what happens before a file is written.
-/

import DocQuery.Table
import DocQuery.Text.Trim

namespace DocQuery

/-! ### Locations -/

/-- The names of a path, without those that stay in the same folder. -/
def pathNames (path : String) : List String :=
  (splitOn '/' path).filter fun name => !name.isEmpty && name != "."

/-- The slashes in front of the names of a path. Two of them stay two, any other number becomes
one. -/
def pathRoot (path : String) : String :=
  if path.startsWith "//" && !path.startsWith "///" then "//"
  else if path.startsWith "/" then "/"
  else ""

/-- A path without the names that stay in the same folder. -/
def simplePath (path : String) : String :=
  let whole := pathRoot path ++ "/".intercalate (pathNames path)
  if whole.isEmpty then "." else whole

/-- Where a path leads to. The names that leave the first folder upwards come first. -/
structure Location where
  /-- Whether the names start in the topmost folder. -/
  absolute : Bool
  names : List String
deriving DecidableEq, Repr

namespace Location

/-- The location at which a path starts. -/
def start (path : String) : Location := ⟨path.startsWith "/", []⟩

/-- The folder around a location. There is none around the topmost one. -/
def leave (location : Location) : Location :=
  match location.names.getLast? with
  | none => if location.absolute then location else { location with names := [".."] }
  | some ".." => { location with names := location.names ++ [".."] }
  | some _ => { location with names := location.names.dropLast }

/-- The location under a name. -/
def enter (location : Location) (name : String) : Location :=
  if name = "" ∨ name = "." then location
  else if name = ".." then location.leave
  else { location with names := location.names ++ [name] }

/-- The location to which a path leads. -/
def ofPath (path : String) : Location := (splitOn '/' path).foldl enter (start path)

/-- The shortest path to a location. -/
def path (location : Location) : String :=
  (if location.absolute then "/" else "") ++ "/".intercalate location.names

end Location

/-! ### Files -/

/-- The length in bytes that a name may have. -/
def nameLimit : Nat := 255

/-- The length in bytes that a path does not reach. -/
def pathLimit : Nat := 4096

/-- What is at a location. -/
inductive Entry where
  | folder
  | file (text : String)
deriving DecidableEq, Repr

/-- The files and the environment in which the program runs. -/
structure Surroundings where
  files : Table String := []
  environment : Table String := []

namespace Surroundings

/-- What is at a location. The folders above the first one are always there. -/
def entry? (surroundings : Surroundings) (location : Location) : Option Entry :=
  if location.names.all (· == "..") then some .folder
  else
    match surroundings.files.get? location.path with
    | some text => some (.file text)
    | none =>
      if surroundings.files.keys.any (·.startsWith (location.path ++ "/")) then some .folder
      else none

/-- The location to which names lead, each of which is looked up in a folder. -/
def walk? (surroundings : Surroundings) (location : Location) : List String → Option Location
  | [] => some location
  | name :: more =>
    match surroundings.entry? location with
    | some .folder => surroundings.walk? (location.enter name) more
    | _ => none

/-- What a path leads to. -/
def find? (surroundings : Surroundings) (path : String) : Option Entry :=
  if path.isEmpty then none
  else (surroundings.walk? (.start path) (splitOn '/' path)).bind surroundings.entry?

/-- Whether one of the names to be looked up in a folder is too long. -/
def hasLongName (surroundings : Surroundings) (location : Location) : List String → Bool
  | [] => false
  | name :: more =>
    match surroundings.entry? location with
    | some .folder =>
      nameLimit < name.utf8ByteSize || surroundings.hasLongName (location.enter name) more
    | _ => false

/-- Whether a path cannot be followed because it, or one of its names, is too long. -/
def isTooLong (surroundings : Surroundings) (path : String) : Bool :=
  pathLimit ≤ path.utf8ByteSize || surroundings.hasLongName (.start path) (splitOn '/' path)

/-- The text of the file to which a path leads. -/
def read? (surroundings : Surroundings) (path : String) : Option String :=
  match surroundings.find? path with
  | some (.file text) => some text
  | _ => none

/-- The surroundings with a file that has the given text. -/
def withFile (surroundings : Surroundings) (location : Location) (text : String) : Surroundings :=
  { surroundings with files := surroundings.files.set location.path text }

/-- The surroundings with a folder. -/
def withFolder (surroundings : Surroundings) (location : Location) : Surroundings :=
  { surroundings with files := surroundings.files.set (location.path ++ "/") "" }

/-- The surroundings with the folders through which a path leads, and with a file that has the given
text at its end, or else a folder. -/
def withPath (surroundings : Surroundings) (path : String) (text : Option String) : Surroundings :=
  let names := splitOn '/' path
  let (location, around) := names.dropLast.foldl (fun (location, surroundings) name =>
      (location.enter name, surroundings.withFolder (location.enter name)))
    (Location.start path, surroundings)
  let last := location.enter (names.getLastD "")
  match text with
  | some text => around.withFile last text
  | none => around.withFolder last

end Surroundings

/-! ### Writing -/

/-- Why a file cannot be written. -/
inductive FileError where
  /-- A path holds the character zero. -/
  | zeroCharacter
  | nameTooLong
  /-- A file stands where a folder is to be made. -/
  | occupied
  /-- A file stands where a path leads through a folder. -/
  | notFolder
  | isFolder
deriving DecidableEq, Repr

/-- Whether a text holds the character zero. -/
def hasZeroCharacter (text : String) : Bool := text.toList.contains '\x00'

namespace Surroundings

/-- Makes the folders to which names lead one after the other, unless they are there. -/
def makeFolders (surroundings : Surroundings) (location : Location) :
    List String → Except FileError Surroundings
  | [] => .ok surroundings
  | name :: more =>
    let next := location.enter name
    match surroundings.entry? next with
    | some .folder => surroundings.makeFolders next more
    | some (.file _) => .error (if more.isEmpty then .occupied else .notFolder)
    | none =>
      if nameLimit < name.utf8ByteSize then .error .nameTooLong
      else (surroundings.withFolder next).makeFolders next more

/-- Makes the folder of a file. -/
def prepareFolder (surroundings : Surroundings) (path : String) : Except FileError Surroundings :=
  let names := (pathNames path).dropLast
  if names.any hasZeroCharacter then .error .zeroCharacter
  else surroundings.makeFolders (.start path) names

/-- Opens a file for writing at its end: its location, and the text that it holds already. -/
def openFile (surroundings : Surroundings) (path : String) : Except FileError (Location × String) :=
  let location := Location.ofPath path
  if hasZeroCharacter path then .error .zeroCharacter
  else if location.names.any fun name => nameLimit < name.utf8ByteSize then .error .nameTooLong
  else
    match surroundings.entry? location with
    | some .folder => .error .isFolder
    | some (.file text) => .ok (location, text)
    | none => .ok (location, "")

end Surroundings

end DocQuery
