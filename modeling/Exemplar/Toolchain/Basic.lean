/-
Exemplar.Toolchain.Basic — the programs that a verification calls.

A toolchain has a state of its own, and a call may change that state and the file system. Nothing
else is assumed of it: the harness is written, and reasoned about, for any toolchain.
-/
import Exemplar.Failure
import Exemplar.FileSystem.Basic
import Exemplar.Log

namespace Exemplar

/-- One use of a program. Without `stdin` the program gets no input at all. -/
structure Call where
  program : String
  args : List String
  stdin : Option Bytes := none
  deriving DecidableEq, Repr

/-- What a finished program leaves: its exit code and the two texts it wrote. -/
structure Outcome where
  code : ExitCode
  stdout : String
  stderr : String
  deriving DecidableEq, Repr

/-- Whether a program ended with the code zero. -/
def Outcome.succeeded (outcome : Outcome) : Bool :=
  outcome.code = some 0

/-- What a toolchain of state `σ` makes of a call: the outcome, or why the program did not start;
and the state, the file system and the records it leaves. -/
structure Answer (σ : Type) where
  outcome : Except Cause Outcome
  state : σ
  files : FileSystem
  records : List Log.Record := []

/-- A set of programs with a state of type `σ`. -/
structure Toolchain (σ : Type) where
  /-- Runs a program to its end. -/
  execute : σ → FileSystem → Call → Answer σ
  /-- Finds the file that a program's name stands for: its path, which need not be UTF-8. -/
  locate : σ → FileSystem → String → Option Bytes × σ × FileSystem

end Exemplar
