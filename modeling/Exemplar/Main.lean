/-
Exemplar.Main — the command line.

The settings come from the environment and the working directory from a listing on the standard
input. Reports go to the standard output, records and failures to the standard error.
-/
import Exemplar.Listing
import Exemplar.Program

namespace Exemplar.Main

/-- The variables that the program and its tools look at. -/
def variableNames : List String :=
  ["CSYNTH_EXAMPLES_ROOT", "CSYNTH_BUILD_TOOL", "CSYNTH_BUILD_PROFILE", "CSYNTH_TARGET_FRAMEWORK",
   "CSYNTH_COMPILER", "CSYNTH_RUNTIME", "CSYNTH_LOG", "RUST_LOG_STYLE", "NO_COLOR",
   "CLICOLOR_FORCE", "PATH"]

/-- The directory in which the program works. -/
def workingDirectory : Location := [.text "work"]

/-- All that is still to be read from a stream. -/
partial def readAll (stream : IO.FS.Stream) (text : String) : IO String := do
  let line ← stream.getLine
  if line.isEmpty then return text else readAll stream (text ++ line)

/-- The machine that the environment describes. -/
def machine : IO Machine := do
  let mut found : List (String × String) := []
  for name in variableNames do
    match ← IO.getEnv name with
    | some value => found := (name, value) :: found
    | none => pure ()
  return ⟨workingDirectory, found⟩

/-- The files of the working directory, if the arguments ask for a verification. -/
def files (args : List String) : IO FileSystem := do
  match CommandLine.read args with
  | .ok (.verify (some _)) =>
    return Listing.plant Machine.installed workingDirectory (← readAll (← IO.getStdin) "")
  | _ => return Machine.installed.putDirectories workingDirectory

end Exemplar.Main

open Exemplar in
/-- Runs the program with the arguments of the command line. -/
def main (args : List String) : IO UInt32 := do
  let result := Program.run (← Main.machine) (← Main.files args) args
  IO.print (Utf8.decodeLossy result.stdout)
  IO.eprint result.stderr
  return UInt32.ofNat result.code
