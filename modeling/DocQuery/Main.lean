/-
**The command line.**

`main` gathers the files that the words name and the variables that hold settings, and writes what
the program answers.
-/

import DocQuery.Shell.Run

open DocQuery

/-- The variables that hold settings. -/
def settingVariables : List String :=
  ["LOCALCOSMOS_LOG_LEVEL", "LOCALCOSMOS_LOG_FORMAT", "LOCALCOSMOS_LOG_FILE",
    "LOCALCOSMOS_IMPLICIT_ALIASES", "LOCALCOSMOS_EQUALITY_TOLERANCE", "LOCALCOSMOS_MAX_ITEM_COUNT"]

/-- The surroundings with what a path leads to. -/
def addPath (surroundings : Surroundings) (path : String) : IO Surroundings := do
  try return surroundings.withPath path (some (← IO.FS.readFile path))
  catch
    | .noFileOrDirectory .. => return surroundings
    | .inappropriateType .. => return surroundings.withPath path none
    | failure => throw failure

/-- The surroundings with the files that words name. -/
def addNamedFiles (surroundings : Surroundings) (words : List String) : IO Surroundings := do
  let .ok given := (Form.ofCommand .query).read (words.drop 1) | return surroundings
  (given.values .data ++ given.values .config).foldlM addPath surroundings

/-- The variables that are set. -/
def setVariables : IO (Table String) :=
  settingVariables.filterMapM fun name => do
    return (← IO.getEnv name).map (Prod.mk name)

def main (words : List String) : IO UInt32 := do
  let surroundings ← addNamedFiles { environment := ← setVariables } words
  let answer := run surroundings words
  let stdout ← IO.getStdout
  let stderr ← IO.getStderr
  for line in answer.output do stdout.putStrLn line
  for line in answer.remarks do stderr.putStrLn line
  return answer.ending.code.toUInt32
