/-
Exemplar.Shell.Job — the processes that a script starts and waits for.

  §1 starting
  §2 waiting
-/
import Exemplar.Shell.State

namespace Exemplar.Shell

/-! ## §1 Starting -/

/-- The process that carries out an action in a state. -/
def asProcess (act : Act Unit) (s : State) : Process :=
  act.run s fun _ => .turn fun _ _ => .ends (.exited 0)

/-- Starts a process that goes on with an action; gives its number. -/
def fork (child : Act Unit) : Act Nat := do
  let s ← get
  task (Task.fork (asProcess child s))

/-- Whether some traps have anything to do. -/
def State.hasTraps (s : State) : Bool := s.traps.any (·.2 ≠ "")

/-- Takes notice of signals no more, or as they are by themselves. -/
def setSignals (ignored caught : List Signal → List Signal) : Act Unit :=
  task (Task.act fun pid k =>
    ((), k.update pid fun e => { e with ignored := ignored e.ignored, caught := caught e.caught }))

/-- What a process that is a part of a script forgets of it: its jobs, and its traps but for the
signals that it takes no notice of. -/
def beginPart : Act Unit := do
  let s ← get
  set { s with
    isPart := true, jobs := [], traps := s.traps.filter (·.2 = ""), pending := []
    statusBefore := none, reached := s.reachedOutside }
  if s.hasTraps then setSignals id fun _ => []

/-- What a process that runs beside a script does first: it takes no notice of what a user at a
terminal might press, and the first of several reads nothing. -/
def beginBackground (isFirst : Bool) : Act Unit := do
  setSignals (fun ignored => .interrupt :: .quit :: ignored) id
  if isFirst then
    task (Task.close 0)
    let _ ← task (Task.openFile "/dev/null" .read)

/-- The smallest number that no job has. -/
def freeJobNumber (jobs : List Job) : Nat :=
  ((List.range (jobs.length + 1)).find? fun n => !jobs.any (·.number = n + 1)).getD 0 + 1

/-- Adds a job. The first job that has ended and has been told of is forgotten. -/
def addJob (pids : List Nat) : Act Unit :=
  modify fun s =>
    let jobs := s.jobs.eraseP fun job => job.told && job.processes.all (·.2.isSome)
    { s with jobs := jobs ++ [{ number := freeJobNumber jobs, processes := pids.map (·, none) }] }

/-! ## §2 Waiting -/

/-- Whether all processes of a job have ended. -/
def Job.isDone (job : Job) : Bool := job.processes.all (·.2.isSome)

/-- The status of a job: that of its last process. -/
def Job.status (job : Job) : Nat :=
  match job.processes.getLast? with
  | some (_, some ending) => ending.status
  | _ => 0

/-- The job that a process belongs to. -/
def State.jobOf? (s : State) (pid : Nat) : Option Job :=
  s.jobs.find? fun job => job.processes.any (·.1 = pid)

/-- Changes the job that a process belongs to. -/
def State.updateJob (s : State) (pid : Nat) (f : Job → Job) : State :=
  { s with jobs := s.jobs.map fun job => if job.processes.any (·.1 = pid) then f job else job }

/-- Notes that a process has ended. -/
def noteEnding (pid : Nat) (ending : Ending) : Act Unit :=
  modify fun s => s.updateJob pid fun job => { job with
    processes := job.processes.map fun p => if p.1 = pid then (pid, some ending) else p }

/-- What is told of a process that was waited for and that a signal has ended. -/
def endingText : Ending → String
  | .exited _ => ""
  | .signalled signal =>
    if signal = .interrupt || signal = .pipe then "" else signal.text ++ "\n"

/-- Waits until a child has ended; none if there is none. -/
def awaitChild : Act (Option (Nat × Ending)) :=
  task (Task.await fun pid k =>
    match k.reap pid with
    | (some child, k) => some (some child, k)
    | (none, k) => if k.hasChild pid then none else some (none, k))

/-- Waits until a child has ended or a signal has come; none if there is neither a child nor a
signal, and in it none for a signal. -/
def awaitChildOrSignal : Act (Option (Option (Nat × Ending))) :=
  task (Task.await fun pid k =>
    let isTold := ((k.entry? pid).map fun e => !e.pending.isEmpty).getD false
    match k.reap pid with
    | (some child, k) => some (some (some child), k)
    | (none, k) =>
      if isTold then some (some none, k)
      else if k.hasChild pid then none
      else some (none, k))

/-- Notes which children have ended, without waiting. -/
def reapEnded : Act Unit :=
  repeated (fun (_ : Unit) => do
    match ← task (Task.act fun pid k => k.reap pid) with
    | some (pid, ending) =>
      noteEnding pid ending
      pure (.inl ())
    | none => pure (.inr ())) Task.endless ()

/-- Waits for the job that a process belongs to, and forgets it; gives its status. Other children
that have ended by then are noted too. -/
def waitForJob (pid : Nat) : Act Nat := do
  let status ← repeated (fun (_ : Unit) => do
    match (← get).jobOf? pid with
    | none => pure (.inr 0)
    | some job =>
      if job.isDone then pure (.inr job.status)
      else match ← awaitChild with
        | none => pure (.inr 0)
        | some (child, ending) =>
          noteEnding child ending
          if job.processes.any (·.1 = child) then complain (endingText ending)
          pure (.inl ())) Task.endless ()
  reapEnded
  modify fun s => { s with jobs := s.jobs.filter fun job => !job.processes.any (·.1 = pid) }
  return status

end Exemplar.Shell
