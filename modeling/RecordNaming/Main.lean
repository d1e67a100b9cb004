/-
  RecordNaming.Main — the command line: it fetches the files and the variables that a command
  reads, runs the process on them, writes what it writes and ends as it ends.
-/
import RecordNaming.CommandLine.Run

open RecordNaming RecordNaming.CommandLine

/-- What a path of the file system names. -/
def fetchEntry (path : String) : IO (Option FileEntry) := do
  match ← (IO.FS.realPath path).toBaseIO with
  | .error _ => return none
  | .ok place =>
    if ← place.isDir then return some .directory
    match ← (IO.FS.readBinFile place).toBaseIO with
    | .ok bytes => return some (.file bytes)
    | .error _ => return some .unreadable

/-- The file of variables of this directory or of the nearest one around it. -/
def fetchVariableFile : IO (Option FileEntry) := do
  let height := ((← IO.currentDir).toString.splitOn "/").length
  for steps in List.range height do
    match ← fetchEntry (String.join (List.replicate steps "../") ++ environmentPath) with
    | some .directory => pure ()
    | some entry => return some entry
    | none => pure ()
  return none

/-- The variables of the process of these names. -/
def fetchVariables (names : List String) : IO (List (String × String)) :=
  names.filterMapM fun name => do return (← IO.getEnv name).map fun value => (name, value)

def main (args : List String) : IO UInt32 := do
  let paths := ((Command.ofArguments? args).map Command.paths).getD []
  let variableFile ← fetchVariableFile
  let entries ← paths.mapM fun path => do return (path, ← fetchEntry path)
  let files : FileLookup := fun path =>
    if path == environmentPath then variableFile else (entries.find? (·.1 == path)).bind (·.2)
  let written := ((variableFile.bind FileEntry.leadingText?).getD "").toList
  let values ← fetchVariables (Settings.names settingsStart ++ EnvironmentFile.mentioned written)
  let ended := process files values args
  IO.print ended.output.stdout
  IO.eprint ended.output.stderr
  return ended.code
