/-
Exemplar.Shell.Builtin — the commands that a shell does by itself, by their names.
-/
import Exemplar.Shell.Builtin.Condition
import Exemplar.Shell.Builtin.Directory
import Exemplar.Shell.Builtin.Flow
import Exemplar.Shell.Builtin.Input
import Exemplar.Shell.Builtin.Jobs
import Exemplar.Shell.Builtin.Limits
import Exemplar.Shell.Builtin.Names
import Exemplar.Shell.Builtin.Output
import Exemplar.Shell.Builtin.Variables

namespace Exemplar.Shell

/-- The times that a script and its children have used, which here are none. -/
def tellTimes : Act Nat := do
  say "0m0.000000s 0m0.000000s\n0m0.000000s 0m0.000000s\n"
  return 0

/-- Does the command of a name, given its arguments; gives its status. -/
def runBuiltin (engine : Engine) (flags : Flags) (name : String) (args : List String) : Act Nat :=
  match name with
  | ":" | "true" => pure 0
  | "false" => pure 1
  | "." => Flow.source engine args
  | "[" | "test" => Condition.test args
  | "alias" => Names.aliasAll args
  | "bg" | "fg" => Jobs.resume args
  | "break" => Flow.leaveLoops .leave args
  | "cd" | "chdir" => Directory.cd args
  | "command" => Names.command engine args
  | "continue" => Flow.leaveLoops .nextRound args
  | "echo" => Output.echo args
  | "eval" => Flow.eval engine flags args
  | "exec" => Flow.exec engine args
  | "exit" => Flow.exit args
  | "export" => Variables.exportAll args
  | "getopts" => Input.getopts args
  | "hash" => Names.hash engine args
  | "jobs" => Jobs.jobs args
  | "kill" => Jobs.kill args
  | "local" => Variables.makeLocal args
  | "printf" => Output.printf args
  | "pwd" => Directory.pwd args
  | "read" => Input.read args
  | "readonly" => Variables.fixAll args
  | "return" => Flow.giveBack args
  | "set" => Variables.set args
  | "shift" => Variables.shift args
  | "times" => tellTimes
  | "trap" => Jobs.trap args
  | "type" => Names.type engine args
  | "ulimit" => Limits.ulimit args
  | "umask" => Limits.umask args
  | "unalias" => Names.unalias args
  | "unset" => Variables.unset args
  | "wait" => Jobs.wait args
  | _ => pure 127

end Exemplar.Shell
