import Baler.Settings.Source
import Baler.Simulation.DryRun

/-!
The command line: a dry run of the worker on the lines of standard input, with the settings of the
environment and of the file `.env`. Settlements go to standard output, the log to standard error.
-/
namespace Baler

/-- The entries that are set in the environment, under their own names. -/
def readEnvironment : IO (List (String × String)) :=
  Settings.entryNames.filterMapM fun name => return (← IO.getEnv name).map (name, ·)

/-- The file of assignments, if there is one. -/
def readAssignments : IO (Option String) := do
  try return some (← IO.FS.readFile ".env")
  catch
    | .noFileOrDirectory .. => return none
    | e => throw e

/-- The lines of a stream after those that were read already, the last one first. -/
partial def readLines (input : IO.FS.Stream) (read : List String) : IO (List String) := do
  let line ← input.getLine
  if line.isEmpty then return read.reverse
  else readLines input ((line.dropEndWhile (· == '\n')).toString :: read)

/-- Report what is wrong with the settings. -/
def reportIssues (issues : List Settings.Issue) : IO UInt32 := do
  for i in issues do IO.eprintln s!"{i.name}: {i.cause.message}"
  return 1

/-- Report a dry run. -/
def report (r : Simulation.DryRun) : IO UInt32 := do
  for line in r.log do IO.eprintln line
  for line in r.settlements do IO.println line
  match r.fault with
  | none => return 0
  | some f =>
    IO.eprintln f.text
    return 1

end Baler

open Baler in
/-- Read the settings and the messages, and run. -/
def main : IO UInt32 := do
  let sources : Settings.Sources := ⟨[], ← readEnvironment, ← readAssignments⟩
  match sources.settings? with
  | .faulty issues => reportIssues issues
  | .sound settings =>
    let texts ← readLines (← IO.getStdin) []
    report (Simulation.DryRun.run settings texts)
