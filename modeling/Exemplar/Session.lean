/-
Exemplar.Session — the world that a verification acts on, and its single actions.

A session changes a world: the files, the state of the tools, the sink of the report and the list of
what happened so far. An action gives a value or fails; the world it leaves stands either way.

  §1 worlds and events
  §2 sessions
  §3 single actions
-/
import Exemplar.FileSystem.Access
import Exemplar.Report
import Exemplar.Toolchain.Basic

namespace Exemplar

/-! ## §1 Worlds and events -/

/-- What can be seen to happen in a session. -/
inductive Event where
  /-- A record was made. -/
  | log (record : Log.Record)
  /-- A program was called. -/
  | call (call : Call)
  /-- A program was looked for. -/
  | locate (program : String)
  /-- The sink took these bytes of the report. -/
  | output (bytes : Bytes)
  deriving DecidableEq, Repr

/-- All that a session can change, and the directory that relative paths are read from. -/
structure World (σ : Type) where
  here : Location
  files : FileSystem
  tools : σ
  sink : Sink := {}
  /-- What happened, in order. -/
  events : List Event := []

/-! ## §2 Sessions -/

/-- A course of actions on a world, which gives an `α` or fails. -/
abbrev Session (σ : Type) (α : Type) := ExceptT Failure (StateM (World σ)) α

namespace Session

variable {σ : Type}

/-- Carries a session out: its result, and the world after it. -/
def perform {α : Type} (session : Session σ α) (world : World σ) : Except Failure α × World σ :=
  session.run.run world

/-! ## §3 Single actions -/

/-- Adds an event. -/
def note (event : Event) : Session σ Unit :=
  modify fun w => { w with events := w.events ++ [event] }

/-- Makes a record. -/
def log (level : Log.Level) (source : Log.Source) (message : String) : Session σ Unit :=
  note (.log ⟨level, source, message⟩)

/-- Lets time pass, and gives the time that begins. -/
def tick : Session σ Nat :=
  fun w => (.ok w.files.tick.time, { w with files := w.files.tick })

/-- A value that depends on the files. -/
def inspect {α : Type} (f : FileSystem → Location → α) : Session σ α :=
  fun w => (.ok (f w.files w.here), w)

/-- A value that is read from the files, or the failure of reading it. -/
def consult {α : Type} (f : FileSystem → Location → Except Failure α) : Session σ α :=
  fun w => (f w.files w.here, w)

/-- Calls a program; that it does not start is a value here. -/
def attempt (tools : Toolchain σ) (call : Call) : Session σ (Except Cause Outcome) :=
  fun w =>
    let answer := tools.execute w.tools w.files call
    (.ok answer.outcome,
      { w with
        files := answer.files
        tools := answer.state
        events := w.events ++ .call call :: answer.records.map .log })

/-- Calls a program that has to start. -/
def execute (tools : Toolchain σ) (call : Call) : Session σ Outcome := do
  match ← attempt tools call with
  | .ok outcome => pure outcome
  | .error cause => throw (.spawn call.program cause)

/-- Looks for a program, and gives the path that it was found at. -/
def locate (tools : Toolchain σ) (program : String) : Session σ (Option Bytes) :=
  fun w =>
    let (path, state, files) := tools.locate w.tools w.files program
    (.ok path, { w with files, tools := state, events := w.events ++ [.locate program] })

/-- Writes a file. -/
def store (path : Path) (data : Bytes) : Session σ Unit :=
  fun w =>
    match w.files.write w.here path data with
    | .ok files => (.ok (), { w with files })
    | .error cause => (.error (.access path cause), w)

/-- Adds a text to the report. The sink takes what it has room for; it is a failure if that is not
all. -/
def tell (text : String) : Session σ Unit :=
  fun w =>
    let bytes := Utf8.encode text
    let told := { w with
      sink := w.sink.take bytes
      events := w.events ++ [.output (w.sink.fitting bytes)] }
    if w.sink.accepts bytes then (.ok (), told)
    else (.error (.access ⟨"<stdout>"⟩ .sinkFull), told)

end Session

end Exemplar
