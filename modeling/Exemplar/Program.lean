/-
Exemplar.Program — the whole program, from its arguments to its exit code.

Reports go to the standard output, records and failures to the standard error. A verification that
ends gives the exit code zero, whatever its verdicts; every failure gives one.
-/
import Exemplar.CommandLine.Basic
import Exemplar.Harness
import Exemplar.Log.Filter
import Exemplar.Machine

namespace Exemplar.Program

/-- What a run of the program leaves. -/
structure Result where
  code : Nat
  stdout : Bytes
  stderr : String
  files : FileSystem

/-- The filter that shows records when none is set. -/
def defaultFilter : String := "warn"

/-- What a failure prints. -/
def failureText (failure : Failure) : String :=
  "Error: " ++ failure.printed ++ "\n"

/-- The records among events that a filter lets through, as text. -/
def recordText (styling : Styling) (filter : Log.Filter) (events : List Event) : String :=
  events.foldl (fun text event =>
    match event with
    | .log record => if filter.permits record then text ++ record.line styling else text
    | _ => text) ""

/-- Verifies what an argument selects on a machine. -/
def verify (machine : Machine) (files : FileSystem) (arg : Option String) : Result :=
  let (filter, warnings) := Log.Filter.parse ((machine.valueOf? "CSYNTH_LOG").getD defaultFilter)
  let warned := String.join (warnings.map Log.warningLine)
  match arg with
  | none => ⟨1, [], warned ++ failureText .usage, files⟩
  | some arg =>
    let harness : Harness Unit :=
      ⟨Settings.ofEnvironment machine.valueOf?, machine.toolchain⟩
    let world : World Unit := { here := machine.here, files, tools := () }
    let (result, after) := (harness.verifySelected arg).perform world
    let told := warned ++ recordText (Styling.ofRecords machine.valueOf?) filter after.events
    match result with
    | .ok _ => ⟨0, after.sink.taken, told, after.files⟩
    | .error failure => ⟨1, after.sink.taken, told ++ failureText failure, after.files⟩

/-- Runs the program with arguments on a machine. -/
def run (machine : Machine) (files : FileSystem) (args : List String) : Result :=
  match CommandLine.read args with
  | .ok (.verify arg) => verify machine files arg
  | .ok .help =>
    let styling := Styling.ofEnvironment machine.valueOf?
    ⟨0, Utf8.encode (CommandLine.helpText styling), "", files⟩
  | .ok (.version long) => ⟨0, Utf8.encode (CommandLine.versionText long), "", files⟩
  | .error mistake => ⟨1, [], mistake.message, files⟩

end Exemplar.Program
