/-
Exemplar.Failure — the failures that end a run.

A failure is one of nine causes. Each has one message; five of them never have a further cause, the
others carry it along. An output that differs from the expected one is not a failure.

  §1 failures and their messages
  §2 failures in print
-/
import Exemplar.Cause
import Exemplar.Path
import Exemplar.Text.Split

namespace Exemplar

/-! ## §1 Failures and their messages -/

/-- The exit code of a finished process; none when a signal ended it. -/
abbrev ExitCode := Option Int

/-- An exit code as messages show it. -/
def ExitCode.shown : ExitCode → String
  | some code => "Some(" ++ toString code ++ ")"
  | none => "None"

/-- Why a run ended before its end. -/
inductive Failure where
  /-- No example was asked for. -/
  | usage
  /-- The example asked for is not among those available. -/
  | unknownExample (name : String) (available : List String)
  /-- The examples root cannot be listed. -/
  | registry (root : Path) (cause : Cause)
  /-- No regular file stands where the build should have put its result. -/
  | missingArtifact (name : String) (path : Path)
  /-- A program did not start. -/
  | spawn (program : String) (cause : Cause)
  /-- A file, or the report, could not be read or written. -/
  | access (path : Path) (cause : Cause)
  /-- The compiler ended with another code than zero. -/
  | compiler (name : String) (code : ExitCode) (stderr : String)
  /-- The runtime is nowhere on the search path. -/
  | runtimeUnavailable (program : String)
  /-- The script ended with another code than zero. -/
  | runtime (name : String) (code : ExitCode) (stderr : String)
  deriving DecidableEq, Repr

namespace Failure

/-- What a failure says. -/
def message : Failure → String
  | usage => "usage: csynth-examples <example|all>"
  | unknownExample name available =>
    "Example " ++ name ++ " not found\nAvailable examples: [" ++ Text.joinWith ", " available ++ "]"
  | registry root _ => "cannot read examples root " ++ root.text
  | missingArtifact name path =>
    "build artifact for " ++ name ++ " not found at " ++ path.text ++ " (did the build fail?)"
  | spawn program _ => "failed to launch " ++ program
  | access path _ => "I/O error on " ++ path.text
  | compiler name code stderr =>
    "compiler failed on " ++ name ++ " (exit " ++ code.shown ++ ")\n" ++ stderr
  | runtimeUnavailable program => "No " ++ program ++ " executable found in path"
  | runtime name code stderr =>
    "Error running " ++ name ++ ".lua! (exit " ++ code.shown ++ ")\n" ++ stderr

/-- The cause that a failure carries along. -/
def cause? : Failure → Option Cause
  | registry _ cause => some cause
  | spawn _ cause => some cause
  | access _ cause => some cause
  | _ => none

/-! ## §2 Failures in print -/

/-- The message and the cause on one line. -/
def oneLine (failure : Failure) : String :=
  match failure.cause? with
  | none => failure.message
  | some cause => failure.message ++ ": " ++ cause.message

/-- A text with each of its lines four columns in, empty ones too. -/
def indented (text : String) : String :=
  Text.joinWith "\n" ((Text.split '\n' text).map ("    " ++ ·))

/-- The message, and below it the cause. -/
def printed (failure : Failure) : String :=
  match failure.cause? with
  | none => failure.message
  | some cause => failure.message ++ "\n\nCaused by:\n" ++ indented cause.message

end Failure

end Exemplar
