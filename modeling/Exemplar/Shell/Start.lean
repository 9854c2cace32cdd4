/-
Exemplar.Shell.Start — how a shell starts.

A shell takes its variables from those that it sees, then its options, and then runs a command that
is an argument, a script that an argument names, or what it reads from its standard input.

  §1 variables
  §2 where commands come from
  §3 the shell
-/
import Exemplar.Shell.Eval
import Exemplar.Shell.Stream

namespace Exemplar.Shell

/-! ## §1 Variables -/

/-- The variables that every shell has. -/
def firstVariables : List (String × Variable) :=
  [("IFS", { value := some " \t\n" }), ("OPTIND", { value := some "1" }),
   ("PATH", { value := some standardPath }), ("PS1", { value := some "# " }),
   ("PS2", { value := some "> " }), ("PS4", { value := some "+ " })]

/-- The state of a shell that sees some variables. Those whose names are none are passed over, and
what parts fields and where options are looked for is never taken from them. -/
def State.ofEnvironment (name : String) (environment : List (String × String)) : State :=
  let start : State := { name, bindings := firstVariables }
  environment.foldl (fun s (name, value) =>
    if !isName name then s
    else
      let value := if name = "IFS" then " \t\n" else if name = "OPTIND" then "1" else value
      s.bind name { value := some value, exported := true }) start

/-- Finds out where the shell is: the name that it is told counts if it leads there. -/
def findDirectory : Act Unit := do
  let told := (← get).valueOf "PWD"
  let here ← task (Task.view fun pid k => k.hereOf pid)
  let leads ← match ← task (Task.stat told) with
    | .ok (location, .directory) => pure (decide (location = here))
    | _ => pure false
  let isPlaced := !(told.front = '/' && leads)
  let directory ← if isPlaced then Directory.physicalName else pure told
  modify fun s =>
    { s with directory, isPlaced }.bind "PWD" { value := some directory, exported := true }

/-! ## §2 Where commands come from -/

/-- Gives the shell its name and its parameters. -/
def takeName : List String → Act Unit
  | [] => pure ()
  | name :: params => modify fun s => { s with name, params }

/-- Gets ready for a user, if there is one: jobs are controlled unless the options say otherwise. -/
def beginControl (options : Variables.Options) : Act Unit := do
  if (← get).has 'i' && !options.saysJobs then modify (·.turn true 'm')
  Variables.refuseTerminal

/-- Runs what comes from the standard input. -/
def runInput (engine : Engine) : Act Unit := runBlocks engine false "" (blockOf 0)

/-- Runs a command. What a user may go on with comes from the standard input then. -/
def runArgument (engine : Engine) (command : String) : Act Unit := do
  match ← attempt (runText engine command {}) with
  | .ok _ => if (← get).has 's' then runInput engine
  | .error .failed => if (← get).has 'i' then runInput engine else throw .failed
  | .error halt => throw halt

/-- Reads the arguments of a shell and runs what they ask for. -/
def start (engine : Engine) (args : List String) : Act Unit := do
  let options ← Variables.turnOptions true (args.length + 1) { args }
  match options.args, options.isCommand with
  | [], true => fail "-c requires an argument"
  | command :: rest, true =>
    takeName rest
    beginControl options
    runArgument engine command
  | [], false =>
    modify (·.turn true 's')
    beginControl options
    runInput engine
  | path :: rest, false =>
    if (← get).has 's' then
      modify fun s => { s with params := path :: rest }
      beginControl options
      runInput engine
    else
      let number ← openScript path
      takeName (path :: rest)
      beginControl options
      runBlocks engine false "" (blockOf number)

/-! ## §3 The shell -/

/-- How deep commands may stand in each other. -/
def depthLimit : Nat := 40000

/-- The shell, given the programs that it can start. -/
def shell (program? : String → Option Executable) : Executable := fun argv environment =>
  let engine := engineOf program? depthLimit
  let run : Act Unit := do
    let rootPid ← task Task.self
    let parent ← task (Task.view fun pid k => ((k.entry? pid).map (·.parent)).getD 0)
    modify fun s => { s with rootPid }.bind "PPID" { value := some (toString parent) }
    findDirectory
    toEnd engine (start engine argv.tail)
  asProcess run (.ofEnvironment (argv.head?.getD "sh") environment)

end Exemplar.Shell
