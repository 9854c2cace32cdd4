/-
Exemplar.Kernel.Process — what processes do.

A process is given by what it does next. Each of its turns changes the shared state in one go and
says how it goes on; or it has to wait, and does the same when it is its turn again. A `Task` is a
part of a process that gives a value: it is a process as soon as it is said what follows on the
value.

  §1 processes and tasks
  §2 single tasks
  §3 reading and writing all
  §4 programs that are made of several files
-/
import Exemplar.Kernel.Call

namespace Exemplar

/-! ## §1 Processes and tasks -/

/-- What comes of a turn of a process that goes on as `α`. -/
inductive Turn (α : Type) where
  /-- The process has to wait for another one. -/
  | waits
  /-- The process has to wait, and at the latest until a time. -/
  | waitsUntil (time : Nat)
  | goesOn (kernel : Kernel) (next : α)
  /-- There is one process more, with its number and what it does. -/
  | splits (kernel : Kernel) (child : Nat) (first next : α)
  | ends (ending : Ending)

/-- A process, by what it does when it is its turn, given its number and the shared state. -/
inductive Process where
  | turn (act : Nat → Kernel → Turn Process)

instance : Inhabited Process := ⟨.turn fun _ _ => .waits⟩

/-- A program that can be executed: the process that it is, given all its arguments and the
variables that it sees. -/
abbrev Executable := List String → List (String × String) → Process

/-- A part of a process that gives an `α`. -/
def Task (α : Type) := (α → Process) → Process

namespace Task

instance : Monad Task where
  pure a := fun next => next a
  bind task f := fun next => task fun a => f a next

/-! ## §2 Single tasks -/

/-- Does something to the shared state as soon as it can be done. -/
def await {α : Type} (f : Nat → Kernel → Option (α × Kernel)) : Task α :=
  fun next => .turn fun pid k =>
    match f pid k with
    | some (a, k) => .goesOn k (next a)
    | none => .waits

/-- Does something to the shared state. -/
def act {α : Type} (f : Nat → Kernel → α × Kernel) : Task α :=
  fun next => .turn fun pid k =>
    match f pid k with
    | (a, k) => .goesOn k (next a)

/-- Looks at the shared state. -/
def view {α : Type} (f : Nat → Kernel → α) : Task α :=
  fun next => .turn fun pid k => .goesOn k (next (f pid k))

/-- Lets others have their turns. -/
def pause : Task Unit := view fun _ _ => ()

/-- Starts another process, which does `child`; gives its number. -/
def fork (child : Process) : Task Nat :=
  fun next => .turn fun pid k =>
    let (number, k) := k.fork pid
    .splits k number child (next number)

/-- Goes on as another program would: nothing that follows is done. -/
def become {α : Type} (process : Process) : Task α :=
  fun _ => .turn fun pid k => .goesOn (k.handOver pid) process

/-- Waits for some time, in microseconds. -/
def sleep (time : Nat) : Task Unit :=
  fun next => .turn fun _ k =>
    let wake := k.clock + time
    .goesOn k (.turn fun _ k => if wake ≤ k.clock then .goesOn k (next ()) else .waitsUntil wake)

/-- How long it takes to end, in microseconds: what the process did last has an effect before. -/
def endingTime : Nat := 50

/-- Ends the process. -/
def finish {α : Type} (ending : Ending) : Task α := do
  sleep endingTime
  fun _ => .turn fun _ _ => .ends ending

/-- Ends the process with a status. -/
def exit {α : Type} (status : Nat) : Task α := finish (.exited (status % 256))

/-- The number of the process. -/
def self : Task Nat := view fun pid _ => pid

/-- Opens a file; gives the descriptor that leads to it. -/
def openFile (path : String) (mode : Mode) : Task (Except Errno Nat) :=
  act fun pid k => k.openFile pid path mode

/-- Gives a descriptor up. -/
def close (descriptor : Nat) : Task Unit :=
  act fun pid k => ((), (k.close pid descriptor).2)

/-- Lets a descriptor lead to where another one leads. -/
def duplicate (descriptor target : Nat) : Task (Except Errno Unit) :=
  act fun pid k => k.duplicate pid descriptor target

/-- Makes a pipe; gives the descriptors that lead to its outlet and to its inlet. -/
def makePipe (pipe : Pipe := {}) : Task (Except Errno (Nat × Nat)) :=
  act fun pid k => k.makePipe pid pipe

/-- What stands at a path, links followed. -/
def stat (path : String) : Task (Except Errno (Location × Node)) :=
  view fun pid k => k.stat pid path

/-- What stands at a path, be it a link. -/
def lstat (path : String) : Task (Except Errno (Location × Node)) :=
  view fun pid k => k.lstat pid path

/-- Sends a signal to a process. -/
def signal (pid : Nat) (signal : Signal) : Task (Except Errno Unit) :=
  act fun _ k => k.signal pid signal

/-! ## §3 Reading and writing all -/

/-- Reads at most so many bytes. -/
def read (descriptor count : Nat) : Task (Except Errno Bytes) :=
  await fun pid k => k.read pid descriptor count

/-- Reads bytes up to the end of a line at most, as if one by one. -/
def readInLine (descriptor : Nat) : Task (Except Errno Bytes) :=
  await fun pid k => k.read pid descriptor (k.lineLength pid descriptor)

/-- Writes all of some bytes, in as many turns as it takes. Every turn writes at least one, so that
their number bounds the turns. -/
def writeAll (descriptor : Nat) (bytes : Bytes) : Task (Except Errno Unit) :=
  let rec go : Nat → Bytes → Task (Except Errno Unit)
    | 0, _ => pure (.ok ())
    | fuel + 1, bytes => do
      match ← await fun pid k => k.write pid descriptor bytes with
      | .error errno => pure (.error errno)
      | .ok count =>
        let rest := bytes.drop count
        if rest.isEmpty then pure (.ok ()) else go fuel rest
  go (bytes.length + 1) bytes

/-- The most turns that a loop takes. -/
def endless : Nat := 0x1000000000000

/-- Does something with a state again and again, until it gives a value. -/
def loop {σ α : Type} (step : σ → Task (σ ⊕ α)) (otherwise : α) : Nat → σ → Task α
  | 0, _ => pure otherwise
  | fuel + 1, s => do
    match ← step s with
    | .inl s => loop step otherwise fuel s
    | .inr a => pure a

/-- Reads up to the end; what was read before an error is given with it. -/
def readAll (descriptor : Nat) : Task (List Bytes × Option Errno) :=
  loop (fun chunks => do
    match ← read descriptor 65536 with
    | .error errno => pure (.inr (chunks.reverse, some errno))
    | .ok [] => pure (.inr (chunks.reverse, none))
    | .ok chunk => pure (.inl (chunk :: chunks))) ([], none) endless []

end Task

/-! ## §4 Programs that are made of several files -/

/-- How long it takes to load a program, in microseconds. -/
def loadingTime : Nat := 2000

/-- A program that needs a library: it takes time to load, and cannot start where no descriptor is
free to read the library. -/
def linked (library : String) (program : Executable) : Executable := fun argv environment =>
  .turn fun pid k =>
    if (k.nextNumber? pid).isSome then
      match Task.sleep loadingTime fun _ => program argv environment with
      | .turn act => act pid k
    else
      let refusal : Task Unit := do
        let _ ← Task.writeAll 2 (Octets.bytes (argv.head?.getD "" ++
          ": error while loading shared libraries: " ++ library ++
          ": cannot open shared object file: Error 24\n"))
        Task.exit 127
      .goesOn k (refusal fun _ => .turn fun _ _ => .ends (.exited 127))

end Exemplar
