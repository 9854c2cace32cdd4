/-
Exemplar.Shell.Engine — running commands that are read, and what surrounds them.

The evaluation of commands is given to everything that needs it, together with the programs that can
be executed; `Engine` holds both.

  §1 engines
  §2 scripts
  §3 traps
  §4 parts of scripts in processes of their own
-/
import Exemplar.Shell.Expansion
import Exemplar.Shell.Job
import Exemplar.Shell.Parser

namespace Exemplar.Shell

/-! ## §1 Engines -/

/-- How a command is run. -/
structure Flags where
  /-- Nothing comes after it. -/
  exits : Bool := false
  /-- Its status is asked for, so that failing does not end a strict script. -/
  tested : Bool := false

/-- What it takes to run commands. -/
structure Engine where
  eval : Option Cmd → Flags → Act Unit
  /-- The programs, by the names of their images. -/
  program? : String → Option Executable

/-! ## §2 Scripts -/

/-- Whether a reader has come to the end of its script. -/
def Reader.isAtEnd (reader : Reader) : Bool := reader.pushedBack && reader.token = .eof

/-- Reads the next commands, and gives also whether the script was at its end before any. The
documents in them are kept, and aliases are those of now. -/
def readCommands (reader : Reader) : Act (Except Fault ((Option Cmd × Bool) × Reader)) := do
  let s ← get
  let ready := { reader with
    aliases := s.aliases, nextDocument := s.nextDocument, documents := [] }
  match Parser.line.run ready with
  | .ok (read, after) =>
    modify fun s => { s with
      documents := after.documents ++ s.documents, nextDocument := after.nextDocument
      reached := after.line, endsText := after.isAtEnd }
    return .ok (read, after)
  | .error fault => return .error fault

/-- Gives up a script that is malformed. -/
def refuseScript {α : Type} (line : Nat) (message : String) : Act α := do
  modify fun s => { s with line }
  fail message

/-- Runs the script that a text is; the last command is run as one after which nothing comes if the
flags say so. The status is that of the last command, zero if there is none. -/
def runText (engine : Engine) (source : String) (flags : Flags) : Act Unit := do
  let reached := (← get).reached
  let status ← repeated (fun (state : Reader × Nat) => do
    let (reader, status) := state
    match ← readCommands reader with
    | .error (.malformed line message) => refuseScript line message
    | .error .unfinished => pure (.inr status)
    | .ok ((_, true), _) => pure (.inr status)
    | .ok ((cmd, false), reader) =>
      engine.eval cmd { flags with exits := flags.exits && reader.isAtEnd }
      let s ← get
      let status := if cmd.isSome then s.status else status
      if s.skip ≠ .none then pure (.inr status) else pure (.inl (reader, status))) Task.endless
    ({ chars := source.toList }, 0)
  modify fun s => { s with status, reached }

/-! ## §3 Traps -/

/-- Does what is to be done about the signals that have come. -/
def runTraps (engine : Engine) : Act Unit := do
  let signals ← task (Task.act fun pid k => k.takePending pid)
  if signals.isEmpty then return
  let before := (← get).statusBefore
  let status := before.getD (← get).status
  modify fun s => { s with statusBefore := some status }
  let numbers := (signals.map (·.number)).eraseDups.mergeSort (· ≤ ·)
  for number in numbers do
    if (← get).skip ≠ .none then
      task (Task.act fun pid k => ((), k.update pid fun e =>
        { e with pending := e.pending ++ [⟨number⟩] }))
    else
      match (← get).traps.lookup number with
      | none => pure ()
      | some action =>
        runText engine action {}
        if (← get).skip ≠ .giveBack true then modify fun s => { s with status }
  modify fun s => { s with statusBefore := before }

/-- The status with which the script ends if its end was asked for. -/
def settleStatus (wasAsked : Bool) : Act Unit :=
  modify fun s => match s.statusBefore, wasAsked with
    | some status, true => { s with status, statusBefore := none }
    | _, _ => { s with statusBefore := none }

/-- Ends the script: what is to be done at its end is done, and what was said goes out. -/
def exitScript (engine : Engine) (halt : Option Halt) : Act Unit := do
  settleStatus (halt = some .exit)
  modify fun s => { s with skip := .none, loops := 0, caller := none, isTracing := false }
  let s ← get
  match s.traps.lookup 0 with
  | some action =>
    set { s with traps := s.traps.filter (·.1 ≠ 0), statusBefore := some s.status }
    let wasAsked ← match ← attempt (runText engine action {}) with
      | .ok _ => pure true
      | .error halt => pure (decide (halt = .exit))
    settleStatus wasAsked
  | none => pure ()
  let _ ← flush
  let status := (← get).status
  task (Task.exit status)

/-- Carries out an action and ends the script after it, however it was left. -/
def toEnd (engine : Engine) (act : Act Unit) : Act Unit := do
  match ← attempt act with
  | .ok _ => exitScript engine none
  | .error halt => exitScript engine (some halt)

/-! ## §4 Parts of scripts in processes of their own -/

/-- Makes a pipe; gives the descriptors from which it is read and to which it is written. -/
def makePipe (pipe : Pipe := {}) : Act (Nat × Nat) := do
  match ← task (Task.makePipe pipe) with
  | .ok ends => return ends
  | .error _ => fail "Pipe call failed"

/-- Starts a process for a part of the script, after which the process ends. -/
def forkPart (engine : Engine) (begins : Act Unit) (cmd : Option Cmd) (flags : Flags) : Act Nat :=
  fork (toEnd engine do
    beginPart
    begins
    engine.eval cmd { flags with exits := true })

/-- What a command writes to its standard output; its status is noted. -/
def capture (engine : Engine) (cmd : Option Cmd) : Act String := do
  match cmd with
  | none => return ""
  | some cmd =>
    let (reading, writing) ← makePipe
    let pid ← forkPart engine (do
      task (Task.close reading)
      if writing ≠ 1 then
        let _ ← task (Task.duplicate writing 1)
        task (Task.close writing)) (some cmd) {}
    addJob [pid]
    task (Task.close writing)
    let (chunks, _) ← task (Task.readAll reading)
    task (Task.close reading)
    let status ← waitForJob pid
    modify fun s => { s with outputStatus := status }
    return Octets.ofBytes chunks.flatten

end Exemplar.Shell
