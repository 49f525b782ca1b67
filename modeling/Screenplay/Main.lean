import Screenplay.CommandLine.Report

/-!
# The program

Reads the files that a command line names, and prints what the command line asks
for.
-/

namespace Screenplay.CommandLine

/-- What is found under a path. -/
def readFile (path : String) : IO FileState := do
  try
    return .ofBytes (← IO.FS.readBinFile path)
  catch
    | .noFileOrDirectory .. => return .absent
    | _ => return .unreadable

/-- The variables that may stand for options. -/
def readEnvironment : IO Environment := do
  let values ← FileOption.all.mapM fun option => do
    return (option.environmentName, ← IO.getEnv option.environmentName)
  return fun name => (values.lookup name).join

/-- The paths of the files of a command line, if it is valid, and whether to say so. -/
def pathsOf (environment : Environment) (arguments : List String) : Bool × List String :=
  match Invocation.read? environment arguments with
  | .ok (some invocation) =>
      (invocation.verbose,
        invocation.config :: (invocation.gas.toList ++ invocation.runtime.toList))
  | _ => (false, [])

end Screenplay.CommandLine

open Screenplay.CommandLine in
/-- The program. -/
def main (arguments : List String) : IO UInt32 := do
  let environment ← readEnvironment
  let (verbose, paths) := pathsOf environment arguments
  if verbose then
    IO.eprintln ("loading " ++ ", ".intercalate paths)
  let states ← paths.mapM fun path => do return (path, ← readFile path)
  let outcome :=
    execute environment (fun path => (states.lookup path).getD .absent) arguments
  IO.print outcome.output
  IO.eprint outcome.errors
  return outcome.exitCode.toUInt32
