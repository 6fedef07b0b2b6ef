import ColumnLint.CommandLine

/-!
# The program

Fetches what a run can look at, makes the run, and prints what it leaves behind. What a path or a
variable means is settled by the run: here files are only read.
-/

open ColumnLint

namespace ColumnLint.CommandLine

/-- All that can be looked up at a path, if there is anything. -/
partial def fetch (path : String) : IO (Option FileTree) := do
  match ← (IO.FS.realPath path).toBaseIO with
  | .error _ => return none
  | .ok place =>
    if !(← place.pathExists) then return none
    else if ← place.isDir then
      let children ← (← place.readDir).toList.filterMapM fun entry => do
        return (← fetch entry.path.toString).map fun t => (entry.fileName, t)
      return some (.directory children)
    else return some (.file (← IO.FS.readBinFile place).toList)

/-- The paths that a run with these arguments can look at, whatever settings it finds. -/
def pathsOf (s : Surroundings) (arguments : List String) : List String :=
  match request arguments with
  | .lint q => q.config.toList ++ q.paths ++ Settings.usualPaths s
  | _ => []

/-- The surroundings of a run with these arguments. -/
def surroundings (arguments : List String) : IO Surroundings := do
  let values ← Settings.variableNames.filterMapM fun name => do
    return (← IO.getEnv name).map fun value => (name, value)
  let s : Surroundings := {
    entryAt := fun _ => none
    environment := fun name => values.lookup name
    workingDirectory := (← IO.currentDir).toString
    homeDirectory := (← IO.getEnv "HOME").getD "/" }
  let entries ← (pathsOf s arguments).filterMapM fun path => do
    return (← fetch path).map fun t => (path, t)
  return { s with entryAt := fun path => entries.lookup path }

end ColumnLint.CommandLine

/-- Runs the program with arguments. -/
def main (arguments : List String) : IO UInt32 := do
  let s ← CommandLine.surroundings arguments
  let outcome := CommandLine.run s arguments
  for notice in outcome.notices do
    IO.eprintln ("WARNING: " ++ notice.message)
  IO.print outcome.output
  IO.eprint outcome.errors
  return UInt32.ofNat outcome.exitCode
