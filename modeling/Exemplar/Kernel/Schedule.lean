/-
Exemplar.Kernel.Schedule — running processes beside each other.

Processes have their turns in slices: one goes on until it has to wait or its slice is over, then it
is the next one's. Time passes with every turn; when all have to wait, it goes on to when the first
of them is to wake.

  §1 slices
  §2 runs
-/
import Exemplar.Kernel.Process

namespace Exemplar.Schedule

/-! ## §1 Slices -/

/-- How a slice came to its end. -/
inductive Pause where
  /-- The process has ended. -/
  | ended
  /-- The slice was over. -/
  | paused (rest : Process)
  /-- The process has to wait, perhaps only until a time; `moved` says whether it did anything
  before. -/
  | waits (rest : Process) (wake : Option Nat) (moved : Bool)

/-- The turns in a slice. -/
def sliceTurns : Nat := 500

/-- What a process may do when it is its turn. -/
inductive Leave where
  | goOn
  /-- It stands still until it is told to go on. -/
  | stay
  /-- A signal ends it. -/
  | fall (signal : Signal)

/-- What a process may do: one that stands still is ended only by a signal that nothing holds up. -/
def leaveOf (k : Kernel) (pid : Nat) : Leave :=
  match k.entry? pid with
  | none => .stay
  | some entry =>
    match entry.doom with
    | some signal => if entry.stopped && !signal.isFinal then .stay else .fall signal
    | none => if entry.stopped then .stay else .goOn

/-- Lets a process have at most so many turns. The processes that it starts are added to `started`,
the latest first. -/
def slice (pid : Nat) :
    (turns : Nat) → Process → Kernel → List (Nat × Process) →
      Kernel × List (Nat × Process) × Pause
  | 0, process, k, started => (k, started, .paused process)
  | turns + 1, .turn act, k, started =>
    match leaveOf k pid with
    | .fall signal => (k.finish pid (.signalled signal), started, .ended)
    | .stay => (k, started, .waits (.turn act) none (turns + 1 ≠ sliceTurns))
    | .goOn =>
      let k := { k with clock := k.clock + 1 }
      match act pid k with
      | .waits => (k, started, .waits (.turn act) none (turns + 1 ≠ sliceTurns))
      | .waitsUntil time =>
        (k, started, .waits (.turn act) (some time) (turns + 1 ≠ sliceTurns))
      | .goesOn k next => slice pid turns next k started
      | .splits k child first next => slice pid turns next k ((child, first) :: started)
      | .ends ending => (k.finish pid ending, started, .ended)

/-! ## §2 Runs -/

/-- The earlier of two times, where there are any. -/
def earlier : Option Nat → Option Nat → Option Nat
  | some a, some b => some (min a b)
  | some a, none => some a
  | none, b => b

/-- Runs processes, in the order of their turns, until `isOver` or none is left that could go on.
The first `idle` slices before have only been waited in, and `wake` is when the first of those who
wait is to wake. -/
def run (isOver : Kernel → Bool) :
    (slices : Nat) → (idle : Nat) → (wake : Option Nat) → List (Nat × Process) → Kernel → Kernel
  | 0, _, _, _, k => k
  | _, _, _, [], k => k
  | slices + 1, idle, wake, (pid, process) :: others, k =>
    if isOver k then k
    else if others.length < idle then
      match wake with
      | none => k
      | some time =>
        run isOver slices 0 none ((pid, process) :: others) (k.goOnTo time)
    else
      match slice pid sliceTurns process k [] with
      | (k, started, .ended) => run isOver slices 0 none (others ++ started.reverse) k
      | (k, started, .paused rest) =>
        run isOver slices 0 none (others ++ started.reverse ++ [(pid, rest)]) k
      | (k, started, .waits rest time moved) =>
        let queue := others ++ started.reverse ++ [(pid, rest)]
        if moved then run isOver slices 1 time queue k
        else run isOver slices (idle + 1) (earlier wake time) queue k

end Exemplar.Schedule
