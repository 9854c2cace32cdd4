/-
Exemplar.Shell.State — what a running script can see and change.

A script has variables, parameters, functions, aliases, options and traps of its own. What it does
to files and descriptors it does as a process.

  §1 state
  §2 actions
  §3 writing
  §4 variables
  §5 options
-/
import Exemplar.Kernel.Process
import Exemplar.Number.Integer
import Exemplar.Shell.Grammar

namespace Exemplar.Shell

/-! ## §1 State -/

/-- A variable: its value, if it has one, and whether programs see it and whether it may change. -/
structure Variable where
  value : Option String := none
  exported : Bool := false
  fixed : Bool := false
  deriving Repr

/-- What variables and options were that are local to a function: those that were not set are
none. -/
structure Scope where
  bindings : List (String × Option Variable) := []
  options : Option (List Char) := none

/-- A command that is run by other processes: its number, them in order, and how they ended. -/
structure Job where
  number : Nat := 1
  processes : List (Nat × Option Ending)
  /-- Whether the script has been told how it ended. -/
  told : Bool := false

/-- Where a command was found along the search path: by which entry, and the path of the program,
or none if it is the shell that does it. -/
structure Found where
  index : Nat
  path : Option String
  /-- Whether the script has changed its directory since then. -/
  isStale : Bool := false
  deriving Repr

/-- What the commands up to the end of a loop or of a function are passed over for. -/
inductive Skip where
  | none
  /-- To leave a loop. -/
  | leave
  /-- To go on with the next round of a loop. -/
  | nextRound
  /-- To leave a function or a script; `given` says whether with a status that was asked for. -/
  | giveBack (given : Bool)
  deriving DecidableEq, Repr

/-- The state of a running script. -/
structure State where
  /-- The name of the script. -/
  name : String := "sh"
  params : List String := []
  /-- Where in the parameters options are looked for, and where in the parameter. Without a place,
  as after a search that failed, the next search starts anew. -/
  optionIndex : Option Nat := some 1
  optionOffset : Option Nat := none
  bindings : List (String × Variable) := []
  /-- What was before it was local, for each function that runs, the innermost first. -/
  saved : List Scope := []
  functions : List (String × Nat × Cmd) := []
  aliases : List (String × String) := []
  /-- Where commands were found, by their names. -/
  found : List (String × Found) := []
  /-- The letters of the options that are on. -/
  options : List Char := []
  status : Nat := 0
  /-- The line of the command that runs. -/
  line : Nat := 0
  /-- The line that reading has come to. -/
  reached : Nat := 1
  /-- The line that reading has come to in the script that is not part of any other. -/
  reachedOutside : Nat := 1
  /-- The command that the script does by itself and that runs. -/
  caller : Option String := none
  /-- How many functions run, one in another. -/
  calls : Nat := 0
  /-- How many loops the command stands in. -/
  loops : Nat := 0
  skip : Skip := .none
  /-- How many loops are still to be left. -/
  skipCount : Nat := 0
  /-- What is done when a signal comes, zero being the end of the script. -/
  traps : List (Nat × String) := []
  /-- The status before a trap, while one runs. -/
  statusBefore : Option Nat := none
  jobs : List Job := []
  /-- The last process that was sent to run beside the script. -/
  lastBackground : Option Nat := none
  rootPid : Nat := 0
  /-- Whether it is not the script itself but a part of it in a process of its own. -/
  isPart : Bool := false
  documents : List (Nat × Word) := []
  nextDocument : Nat := 0
  /-- What was written and has not gone out yet. -/
  pending : List String := []
  /-- The status of the last command whose output was asked for. -/
  outputStatus : Nat := 0
  /-- The directory as the script names it. -/
  directory : String := "/"
  /-- Whether the place of the directory is known. -/
  isPlaced : Bool := false
  /-- Whether the text before such commands is being made. -/
  isTracing : Bool := false
  /-- Whether the last that was read was the end of a text. -/
  endsText : Bool := false

namespace State

/-- Turns the option of a letter on or off. -/
def turn (s : State) (on : Bool) (letter : Char) : State :=
  let others := s.options.filter (· ≠ letter)
  { s with options := if on then letter :: others else others }

/-- Whether the option of a letter is on. -/
def has (s : State) (letter : Char) : Bool := s.options.contains letter

end State

/-! ## §2 Actions -/

/-- Why the course of a script is left. -/
inductive Halt where
  /-- A command could not be done. -/
  | failed
  /-- The script asked for its end. -/
  | exit
  /-- The last command is done. -/
  | done
  deriving DecidableEq, Repr

/-- A course of a script. -/
abbrev Act (α : Type) := ExceptT Halt (StateT State Task) α

/-- Does something as a process. -/
def task {α : Type} (t : Task α) : Act α := ExceptT.lift (StateT.lift t)

/-- Carries out an action, and gives the reason if it was left. -/
def attempt {α : Type} (act : Act α) : Act (Except Halt α) :=
  ExceptT.mk (do return .ok (← act.run))

/-- Carries out an action, and something after it even if it was left. -/
def ensuring {α : Type} (act : Act α) (after : Act Unit) : Act α := do
  let result ← attempt act
  after
  match result with
  | .ok a => pure a
  | .error halt => throw halt

/-- Does something with a state again and again, until it gives a value. -/
def repeated {σ α : Type} (step : σ → Act (σ ⊕ α)) : Nat → σ → Act α
  | 0, _ => throw .done
  | fuel + 1, s => do
    match ← step s with
    | .inl s => repeated step fuel s
    | .inr a => pure a

/-! ## §3 Writing -/

/-- Writes a text to a descriptor. -/
def writeTo (descriptor : Nat) (text : String) : Act Unit := do
  if text ≠ "" then
    let _ ← task (Task.writeAll descriptor (Octets.bytes text))

/-- Writes a text to the standard error. -/
def complain (text : String) : Act Unit := writeTo 2 text

/-- Adds a text to what goes to the standard output. -/
def say (text : String) : Act Unit :=
  modify fun s => if text = "" then s else { s with pending := text :: s.pending }

/-- Writes out what was said; gives whether that was possible. -/
def flush : Act Bool := do
  let s ← get
  if s.pending.isEmpty then return true
  set { s with pending := [] }
  match ← task (Task.writeAll 1 (Octets.bytes (String.join s.pending.reverse))) with
  | .ok _ => return true
  | .error _ => return false

/-- Writes a message about the script to the standard error. -/
def report (message : String) : Act Unit := do
  let s ← get
  let caller := match s.caller with
    | some caller => caller ++ ": "
    | none => ""
  complain (s.name ++ ": " ++ toString s.line ++ ": " ++ caller ++ message ++ "\n")

/-- Gives up a command with a message. -/
def fail {α : Type} (message : String) (status : Nat := 2) : Act α := do
  report message
  modify fun s => { s with status }
  let _ ← flush
  throw .failed

/-! ## §4 Variables -/

/-- The value of a variable. -/
def State.valueOf? (s : State) (name : String) : Option String :=
  (s.bindings.lookup name).bind (·.value)

/-- The value of a variable, empty if it is not set. -/
def State.valueOf (s : State) (name : String) : String := (s.valueOf? name).getD ""

/-- Puts a variable in the place of the one with its name. -/
def State.bind (s : State) (name : String) (binding : Variable) : State :=
  if (s.bindings.lookup name).isSome then
    { s with bindings := s.bindings.map fun e => if e.1 = name then (name, binding) else e }
  else { s with bindings := s.bindings ++ [(name, binding)] }

/-- Takes a variable away. -/
def State.unbind (s : State) (name : String) : State :=
  { s with bindings := s.bindings.filter (·.1 ≠ name) }

/-- The number that a text writes, as commands that need one read it: blanks may stand around it. -/
def wholeNumber? (text : String) : Option Nat :=
  match Number.scan (some 10) text.toList with
  | none => none
  | some n =>
    let (value, isCut) := n.signed
    if isCut || !n.rest.all Number.isSpace || value < 0 || 2147483647 < value then none
    else some value.toNat

/-- The number that a text writes, where one is needed. -/
def needNumber (text : String) : Act Nat := do
  match wholeNumber? text with
  | some n => return n
  | none => fail ("Illegal number: " ++ text)

/-- Does what a new value of a variable means beyond the value: options are looked for from another
place on, or programs are looked for again. -/
def noteAssigned (name value : String) : Act Unit := do
  if name = "OPTIND" then
    let index ← needNumber value
    modify fun s => { s with optionIndex := some (max 1 index), optionOffset := none }
  else if name = "PATH" then modify fun s => { s with found := [] }

/-- The name of a variable that a text starts with, up to the first `=`. -/
def needName (text : String) : Act String := do
  let name := String.ofList (text.toList.takeWhile (· ≠ '='))
  if isName name then return name else fail (name ++ ": bad variable name")

/-- Sets a variable; it stays exported if it was, and is if all are or if `exported`. What the value
means beyond that is done only if `isNoted`. -/
def assign (name value : String) (exported : Bool := false) (isNoted : Bool := true) :
    Act Unit := do
  let s ← get
  let old := (s.bindings.lookup name).getD {}
  if old.fixed then fail (name ++ ": is read only")
  if isNoted then noteAssigned name value
  let exported := exported || old.exported || s.has 'a'
  modify (·.bind name { old with value := some value, exported })

/-- Takes a variable away. -/
def unassign (name : String) : Act Unit := do
  let s ← get
  if ((s.bindings.lookup name).map (·.fixed)).getD false then fail (name ++ ": is read only")
  if (s.bindings.lookup name).isSome then noteAssigned name ""
  modify (·.unbind name)

/-- Remembers what a variable is, up to the end of the function that runs. -/
def remember (name : String) : Act Unit :=
  modify fun s => match s.saved with
    | [] => s
    | scope :: outer =>
      if scope.bindings.any (·.1 = name) then s
      else
        let bindings := (name, s.bindings.lookup name) :: scope.bindings
        { s with saved := { scope with bindings } :: outer }

/-- Remembers which options are on, up to the end of the function that runs. -/
def rememberOptions : Act Unit :=
  modify fun s => match s.saved with
    | [] => s
    | scope :: outer =>
      { s with saved := { scope with options := scope.options.or (some s.options) } :: outer }

/-- Begins to remember variables. -/
def beginScope : Act Unit := modify fun s => { s with saved := {} :: s.saved }

/-- Makes the variables and options that were remembered last what they were. Unless something went
wrong before, a variable whose name is none is told now. -/
def endScope (isFine : Bool) : Act Unit := do
  match (← get).saved with
  | [] => pure ()
  | scope :: outer =>
    modify fun s => { s with saved := outer, options := scope.options.getD s.options }
    for (name, old?) in scope.bindings do
      match old? with
      | some old =>
        modify (·.bind name old)
        noteAssigned name (old.value.getD "0")
      | none =>
        if isFine then let _ ← needName name
        modify (·.unbind name)
        noteAssigned name "0"

/-! ## §5 Options -/

/-- The letters of the options that are on, in the order in which they are told. -/
def State.optionText (s : State) : String :=
  String.ofList ("pubaCEVvxsnmiIfe".toList.filter s.has)

end Exemplar.Shell
