/-
Exemplar.Toolchain.Scripted — a toolchain that plays a script.

Each call is answered by the first rule that fits it. A rule may change files before it answers,
echo what the program was given, and be limited to a number of uses.

  §1 rules
  §2 answers
-/
import Exemplar.FileSystem.Tree
import Exemplar.Toolchain.Basic

namespace Exemplar.Scripted

/-! ## §1 Rules -/

/-- How some calls are answered. -/
structure Rule where
  /-- The program of the calls, any if not given. -/
  program : Option String := none
  /-- A text that one of the arguments holds, none if not given. -/
  arg : Option String := none
  /-- How often the rule answers, always if not given. -/
  times : Option Nat := none
  removes : List (List Step) := []
  plants : List Planting := []
  /-- Why the program does not start, if it does not. -/
  refusal : Option String := none
  code : ExitCode := some 0
  stdout : String := ""
  /-- Whether the file that the last argument names is written out. -/
  echoFile : Bool := false
  /-- Whether the standard input is written out. -/
  echoStdin : Bool := false
  stderr : String := ""
  deriving Repr

/-- Whether a rule answers a call after it was used `uses` times. -/
def Rule.fits (rule : Rule) (uses : Nat) (call : Call) : Bool :=
  (match rule.program with
    | none => true
    | some program => program = call.program) &&
  (match rule.arg with
    | none => true
    | some arg => call.args.any fun a => Text.occursIn arg.toList a.toList) &&
  (match rule.times with
    | none => true
    | some times => uses < times)

/-! ## §2 Answers -/

/-- The rules with the number of times that each was used. -/
abbrev State := List (Rule × Nat)

/-- The state in which no rule was used. -/
def start (rules : List Rule) : State :=
  rules.map (·, 0)

/-- The rule that answers a call, and the state after that. -/
def pick (call : Call) : State → Option (Rule × State)
  | [] => none
  | (rule, uses) :: rest =>
    if rule.fits uses call then some (rule, (rule, uses + 1) :: rest)
    else (pick call rest).map fun found => (found.1, (rule, uses) :: found.2)

/-- The files after a rule has removed and planted what it says. -/
def Rule.change (rule : Rule) (here : Location) (fs : FileSystem) : FileSystem :=
  rule.plants.foldl (·.plant here ·) (rule.removes.foldl (·.uproot here ·) fs)

/-- The text of the file that the last argument names, empty if it cannot be read. -/
def lastFile (here : Location) (fs : FileSystem) (call : Call) : String :=
  match call.args.getLast? with
  | none => ""
  | some path =>
    match fs.read here ⟨path⟩ with
    | .ok data => Utf8.decodeLossy data
    | .error _ => ""

/-- What a rule answers. -/
def Rule.outcome (rule : Rule) (here : Location) (fs : FileSystem) (call : Call) :
    Except Cause Outcome :=
  match rule.refusal with
  | some text => .error (.other text)
  | none =>
    .ok { code := rule.code
          stdout := rule.stdout ++ (if rule.echoFile then lastFile here fs call else "") ++
            (if rule.echoStdin then Utf8.decodeLossy (call.stdin.getD []) else "")
          stderr := rule.stderr }

/-- The toolchain that plays rules, with relative paths read from `here`. Programs are found where
`paths` says. A call that no rule fits succeeds and writes nothing. -/
def toolchain (here : Location) (paths : String → Option Bytes) : Toolchain State where
  execute state fs call :=
    match pick call state with
    | none => { outcome := .ok ⟨some 0, "", ""⟩, state, files := fs }
    | some (rule, state) =>
      let files := rule.change here fs
      { outcome := rule.outcome here files call, state, files }
  locate state fs program := (paths program, state, fs)

end Exemplar.Scripted
