/-
Exemplar.Shell.Builtin.Jobs — signals and processes: `trap`, `kill`, `wait`, `jobs`, `fg` and `bg`.

  §1 signals
  §2 traps
  §3 jobs
-/
import Exemplar.Shell.Builtin.Basic

namespace Exemplar.Shell.Jobs

/-! ## §1 Signals -/

/-- The signal that a text names or numbers; zero counts as one by its number only. -/
def signalOf? (text : String) : Option Nat :=
  let cs := text.toList
  if !cs.isEmpty && cs.all Char.isDigit then
    let n := Number.ofDigits 10 cs
    if n ≤ Signal.last then some n else none
  else (Signal.ofName? text).map (·.number)

/-- The signal of an option, and the arguments after it. -/
def signalOption (args : List String) : Act (Option Nat × Bool × List String) := do
  let byLetters : Act (Option Nat × Bool × List String) := do
    let (options, targets) ← readOptions { bare := ['l'], withArgument := ['s'] } args
    let mut signal : Option Nat := none
    for (letter, name) in options do
      if letter = 's' then
        match signalOf? name with
        | some n => signal := some n
        | none => fail ("invalid signal number or name: " ++ name)
    return (signal, options.any (·.1 = 'l'), targets)
  match args with
  | arg :: rest =>
    match arg.toList with
    | '-' :: name =>
      match signalOf? (String.ofList name) with
      | some signal => return (some signal, false, rest)
      | none => byLetters
    | _ => return (none, false, args)
  | [] => return (none, false, [])

/-- Gives up and says how `kill` is called. -/
def refuseKill {α : Type} : Act α :=
  fail ("Usage: kill [-s sigspec | -signum | -sigspec] [pid | job]... or\n" ++
    "kill -l [exitstatus]")

/-- Writes out the names of signals: of all, or of the one that ended a process with a status. -/
def listSignals (args : List String) : Act Nat := do
  match args with
  | [] =>
    let names := (List.range Signal.last).map fun n => (Signal.mk (n + 1)).name ++ "\n"
    say ("0\n" ++ String.join names)
    return 0
  | arg :: _ =>
    let n ← needNumber arg
    let n := if 128 < n then n - 128 else n
    if n = 0 || Signal.last < n then fail ("invalid signal number or exit status: " ++ arg)
    say ((Signal.mk n).name ++ "\n")
    return 0

/-! ## §2 Traps -/

/-- What a trap is set for: a signal, or the end of the script as zero. -/
def trapOf? (text : String) : Option Nat :=
  if text.map Char.toUpper = "EXIT" then some 0 else signalOf? text

/-- The name of what a trap is set for. -/
def trapName (number : Nat) : String := if number = 0 then "EXIT" else (Signal.mk number).name

/-- Sets what is done when a signal comes: nothing if the action is empty, and what it does by
itself if there is no action. -/
def setTrap (number : Nat) (action : Option String) : Act Unit := do
  modify fun s => { s with
    traps := (action.map (number, ·)).toList ++ s.traps.filter (·.1 ≠ number) }
  if number ≠ 0 then
    let signal : Signal := ⟨number⟩
    let others (signals : List Signal) : List Signal := signals.filter (· ≠ signal)
    setSignals
      (fun ignored => if action = some "" then signal :: others ignored else others ignored)
      (fun caught => match action with
        | some text => if text = "" then others caught else signal :: others caught
        | none => others caught)

/-- Sets what is done when signals come; writes it all out if nothing is given. -/
def trap (args : List String) : Act Nat := do
  let args ← operandsOf args
  let isNumber (text : String) : Bool :=
    (signalOf? text).isSome && text.toList.all Char.isDigit
  let (action, targets) := match args with
    | [target] => (none, [target])
    | action :: targets =>
      if isNumber action then (none, args) else (some action, targets)
    | [] => (none, [])
  if args.isEmpty then
    for (number, action) in (← get).traps.mergeSort (fun a b => a.1 ≤ b.1) do
      say ("trap -- " ++ singleQuoted action ++ " " ++ trapName number ++ "\n")
    return 0
  for target in targets do
    match trapOf? target with
    | none =>
      complain ("trap: " ++ target ++ ": bad trap\n")
      return 1
    | some number => setTrap number (if action = some "-" then none else action)
  return 0

/-! ## §3 Jobs -/

/-- The job that a text names: by `%` and its number, or by its place among the jobs. -/
def jobOf (text : String) : Act Job := do
  let jobs := (← get).jobs.reverse
  let orElse (job? : Option Job) (message : String) : Except String Job :=
    (job?.map .ok).getD (.error message)
  let unknown := "No such job: " ++ text
  let found : Except String Job := match text.toList with
    | ['%'] | ['%', '%'] | ['%', '+'] => orElse jobs.head? "No current job"
    | ['%', '-'] => orElse jobs[1]? "No previous job"
    | ['%', '?'] => match jobs with
      | [job] => .ok job
      | [] => .error unknown
      | _ => .error (text ++ ": ambiguous")
    | '%' :: name =>
      let number := if name.all Char.isDigit then Number.ofDigits 10 name else 0
      orElse (jobs.find? (·.number = number)) unknown
    | _ => .error unknown
  match found with
  | .ok job => return job
  | .error message => fail message

/-- Sends a signal to processes, or tells the names of signals. -/
def kill (args : List String) : Act Nat := do
  if args.isEmpty then refuseKill
  let (signal, isList, targets) ← signalOption args
  if isList then
    if signal.isSome then refuseKill
    listSignals targets
  else
    if targets.isEmpty then refuseKill
    let mut status := 0
    for target in targets do
      let sent ← if target.front = '%' then
          let _ ← jobOf target
          pure (.error Errno.noProcess)
        else if target.front = '-' then
          let _ ← needNumber (String.ofList target.toList.tail)
          pure (.error Errno.noProcess)
        else
          let pid ← needNumber target
          let signal : Signal := ⟨signal.getD 15⟩
          if pid = 0 then task (Task.act fun _ k => (.ok (), k.signalAll signal))
          else task (Task.signal pid signal)
      match sent with
      | .ok _ => pure ()
      | .error errno =>
        report (errno.text ++ "\n")
        status := 1
    return status

/-- Waits until a test on the jobs holds; gives the signal that came before, if one did: of several,
that of the highest number comes last. That a signal has ended a process of the job of the number
`told` is told. -/
def waitUntil (told : Option Nat) (p : List Job → Bool) : Act (Option Nat) :=
  repeated (fun (_ : Unit) => do
    if p (← get).jobs then pure (.inr none)
    else match ← awaitChildOrSignal with
      | none => pure (.inr none)
      | some none =>
        let pending ← task (Task.view fun pid k =>
          ((k.entry? pid).map fun e => e.pending.map (·.number)).getD [])
        pure (.inr pending.max?)
      | some (some (child, ending)) =>
        noteEnding child ending
        if ((← get).jobOf? child).map (·.number) = told then complain (endingText ending)
        pure (.inl ())) Task.endless ()

/-- Waits for the job of a number, which is told of then; gives its status, or that of a signal that
came before and whether one did. -/
def waitForOne (number : Nat) : Act (Nat × Bool) := do
  let job? (jobs : List Job) : Option Job := jobs.find? (·.number = number)
  let isOver (jobs : List Job) : Bool := ((job? jobs).map (·.isDone)).getD true
  match ← waitUntil (some number) isOver with
  | some signal => return (128 + signal, true)
  | none =>
    reapEnded
    modify fun s => { s with jobs := s.jobs.map fun job =>
      if job.number = number then { job with told := true } else job }
    return (((job? (← get).jobs).map Job.status).getD 0, false)

/-- Waits for all jobs, or for those that are named; the status is that of the last one. -/
def wait (args : List String) : Act Nat := do
  let args ← operandsOf args
  if args.isEmpty then
    match ← waitUntil none fun jobs => jobs.all Job.isDone with
    | some signal => return 128 + signal
    | none =>
      modify fun s => { s with jobs := s.jobs.map fun job => { job with told := true } }
      return 0
  let mut status := 127
  for arg in args do
    let job? ← if arg.front = '%' then some <$> jobOf arg
      else
        let pid ← needNumber arg
        pure ((← get).jobs.find? fun job => (job.processes.getLast?.map (·.1)) = some pid)
    match job? with
    | none => pure ()
    | some job =>
      let (result, isInterrupted) ← waitForOne job.number
      status := result
      if isInterrupted then return status
  return status

/-- How a job stands. -/
def jobText (job : Job) : String :=
  if !job.isDone then "Running"
  else match job.processes.getLast? with
    | some (_, some (.signalled signal)) => signal.text
    | _ => if job.status = 0 then "Done" else "Done(" ++ toString job.status ++ ")"

/-- So many blanks. -/
def blanksOf (count : Nat) : String := String.ofList (List.replicate count ' ')

/-- A text with blanks up to the column where the command of a process would stand. -/
def upToCommand (text : String) : String := text ++ blanksOf (max (33 - text.length) 1)

/-- Writes out how a job stands, with the numbers of all its processes if that is asked for, and
forgets it if it has ended. -/
def showJob (letters : List Char) (job : Job) : Act Unit := do
  let jobs := (← get).jobs.reverse
  let numbers := job.processes.map fun process => toString process.1
  let pid := numbers.head?.getD "0"
  if letters.getLast? = some 'p' then say (pid ++ "\n")
  else
    let isFirst := (jobs.head?.map (·.number)) = some job.number
    let isSecond := (jobs[1]?.map (·.number)) = some job.number
    let sign := if isFirst then "+" else if isSecond then "-" else " "
    let label := "[" ++ toString job.number ++ "] " ++ sign ++ " "
    let others := if letters.getLast? = some 'l' then
        numbers.tail.map fun n => " |\n" ++ upToCommand (blanksOf label.length ++ n ++ " ")
      else numbers.tail.map fun _ => " | "
    let shownPid := if letters.getLast? = some 'l' then pid ++ " " else ""
    say (upToCommand (label ++ shownPid ++ jobText job) ++ String.join others ++ "\n")
    if job.isDone then
      modify fun s => { s with jobs := s.jobs.filter (·.number ≠ job.number) }

/-- Writes out how jobs stand. -/
def jobs (args : List String) : Act Nat := do
  let (options, names) ← readOptions { bare := ['l', 'p'] } args
  let letters := options.map (·.1)
  if names.isEmpty then
    reapEnded
    for job in (← get).jobs.reverse do showJob letters job
  else
    for name in names do showJob letters (← jobOf name)
  return 0

/-- Would let a job have the terminal or go on without it; there is none here. -/
def resume (args : List String) : Act Nat := do
  let args ← operandsOf args
  let _ ← jobOf (args.head?.getD "%")
  fail ("job " ++ args.head?.getD "(null)" ++ " not created under job control")

end Exemplar.Shell.Jobs
