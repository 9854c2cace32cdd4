/-
Exemplar.Text.Styling — whether texts may steer a terminal.

Variables of the environment decide: one forbids it, another asks for it even where no terminal is.
Without a terminal, and with neither of them, texts are plain.
-/
import Exemplar.Text.ControlSequence

namespace Exemplar

/-- Whether control sequences may stand in a text. -/
inductive Styling where
  | plain
  | styled
  deriving DecidableEq, Repr

namespace Styling

/-- Whether a variable is set to a text that is not empty. -/
def isSet (valueOf? : String → Option String) (name : String) : Bool :=
  (valueOf? name).getD "" ≠ ""

/-- What the environment wants where no terminal is. To forbid counts more than to ask. -/
def ofEnvironment (valueOf? : String → Option String) : Styling :=
  if isSet valueOf? "NO_COLOR" then .plain
  else if isSet valueOf? "CLICOLOR_FORCE" then .styled
  else .plain

/-- What the environment wants of records, which have a variable of their own. -/
def ofRecords (valueOf? : String → Option String) : Styling :=
  match valueOf? "RUST_LOG_STYLE" with
  | some "always" => .styled
  | some "never" => .plain
  | _ => ofEnvironment valueOf?

/-- A text written to a stream, with its control sequences only if they may stand there. -/
def stream : Styling → String → String
  | .styled, text => text
  | .plain, text => ControlSequence.streamed text

/-- A text in bold, where it may be. -/
def bold : Styling → String → String
  | .styled, text => "\x1b[1m" ++ text ++ "\x1b[0m"
  | .plain, text => text

/-- A text in bold and underlined, where it may be. -/
def heading : Styling → String → String
  | .styled, text => "\x1b[1m\x1b[4m" ++ text ++ "\x1b[0m"
  | .plain, text => text

end Styling

end Exemplar
