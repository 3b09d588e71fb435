/-
**Files of log lines.**

A file that would grow to its limit is put aside before the next line is written, and a limited
number of files is kept in this way.

* `LogFile`: the file that is written to, and those that were put aside;
* `LogFile.write`: the files after one more line;
* `LogFile.contents`: the texts of all files by their names.
-/

import DocQuery.Table

namespace DocQuery

/-- The file that is written to, and those that were put aside. -/
structure LogFile where
  name : String
  /-- The size in bytes that a file does not reach. Without a positive one it grows for ever. -/
  limit : Int
  /-- How many files are kept. Without a positive number none is ever put aside. -/
  kept : Int
  text : String := ""
  /-- The texts of the files that were put aside, the latest one first. -/
  older : List String := []

namespace LogFile

/-- Whether a line does not fit into a file. The characters of the line are counted. -/
def isFullFor (file : LogFile) (line : String) : Bool :=
  0 < file.limit && file.limit ≤ (file.text.utf8ByteSize + (line.length + 1) : Nat)

/-- Puts a file aside. -/
def putAside (file : LogFile) : LogFile :=
  if 0 < file.kept then
    { file with text := "", older := (file.text :: file.older).take file.kept.toNat }
  else file

/-- The files after one more line. -/
def write (file : LogFile) (line : String) : LogFile :=
  let target := if file.isFullFor line then file.putAside else file
  { target with text := target.text ++ line ++ "\n" }

/-- The texts of files that were put aside, by names with numbers. -/
def olderContents (name : String) : Nat → List String → Table String
  | _, [] => []
  | number, text :: more =>
    (name ++ "." ++ toString number, text) :: olderContents name (number + 1) more

/-- The texts of all files by their names. -/
def contents (file : LogFile) : Table String :=
  (file.name, file.text) :: olderContents file.name 1 file.older

end LogFile

end DocQuery
