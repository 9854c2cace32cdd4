/-
Exemplar.Exchange — the bytes that go between the harness and a program it has started.

Three channels join the two: one brings the program its input, two take away what it writes. A
channel holds a bounded number of bytes, so whoever writes may have to wait for whoever reads, and
the other way round. On the harness's side there are two parties: a feeder, which writes the given
input and then closes its end, and a collector, which empties both output channels until they are
closed. The program is any strategy of reading, writing, closing and ending.

`move` says what one party does when it is its turn; none means that it has to wait. The order of
turns and the number of bytes that go at once are free, so a statement about all states that can be
reached is one about all interleavings.

  §1 channels
  §2 programs
  §3 states
  §4 moves
  §5 runs
-/
import Exemplar.Text.Utf8

namespace Exemplar.Exchange

/-! ## §1 Channels -/

/-- A one-way channel: how many bytes it can hold, those it holds, oldest first, and which of its
ends are open. -/
structure Channel where
  capacity : Nat
  held : Bytes := []
  /-- Whether someone may still write to it. -/
  writable : Bool := true
  /-- Whether someone may still read from it. -/
  readable : Bool := true
  deriving DecidableEq, Repr

namespace Channel

/-- Whether so many more bytes fit. -/
def hasRoom (channel : Channel) (count : Nat) : Bool :=
  channel.held.length + count ≤ channel.capacity

/-- Puts bytes in behind those it holds. -/
def put (channel : Channel) (bytes : Bytes) : Channel :=
  { channel with held := channel.held ++ bytes }

/-- Takes so many bytes out, the oldest ones. -/
def drop (channel : Channel) (count : Nat) : Channel :=
  { channel with held := channel.held.drop count }

/-- Closes the writing end. -/
def closeWriting (channel : Channel) : Channel := { channel with writable := false }

/-- Closes the reading end. -/
def closeReading (channel : Channel) : Channel := { channel with readable := false }

/-- Whether a reader finds the end: nothing is held and nothing can come. -/
def atEnd (channel : Channel) : Bool := channel.held.isEmpty && !channel.writable

end Channel

/-! ## §2 Programs -/

/-- The two outputs of a program. -/
inductive Output where
  | out
  | err
  deriving DecidableEq, Repr

/-- A value for each output, with the one for `output` replaced. -/
def Output.set {α : Type} (output : Output) (value : α) (values : Output → α) : Output → α :=
  fun other => if other = output then value else values other

/-- What a program wants to do, and how it goes on. A reply of none means that the program has
itself closed the end that it wanted to use. -/
inductive Intent (σ : Type) where
  /-- Read some bytes, at least one and at most one more than `more`. No bytes mean that the input
  has ended. -/
  | read (more : Nat) (next : Option Bytes → σ)
  /-- Write bytes. The reply says how many of them were written. -/
  | write (output : Output) (data : Bytes) (next : Option Nat → σ)
  | closeInput (next : σ)
  | closeOutput (output : Output) (next : σ)
  /-- Do something that the channels do not show. -/
  | think (next : σ)
  /-- End, which closes all ends that are still open. -/
  | exit

/-- A program, by what it wants to do in each of its states. -/
abbrev Program (σ : Type) := σ → Intent σ

/-! ## §3 States -/

/-- How far an exchange has come. -/
structure State (σ : Type) where
  /-- The input that is still to be written; none when the feeder has ended. -/
  feeder : Option Bytes
  /-- The state of the program; none when it has ended. -/
  program : Option σ
  input : Channel
  output : Output → Channel
  /-- What was collected from each output. -/
  collected : Output → Bytes := fun _ => []
  /-- Whether the collector has found the end of an output. -/
  finished : Output → Bool := fun _ => false
  /-- What the program has read. -/
  consumed : Bytes := []
  /-- Whether the program was told that its input has ended. -/
  sawEnd : Bool := false
  /-- What the program has written to each output. -/
  written : Output → Bytes := fun _ => []

/-- The state in which a program starts, with `stdin` as its input and channels that can hold so
much. Without an input its channel is closed from the start. -/
def start {σ : Type} (stdin : Option Bytes) (initial : σ) (inputCapacity : Nat)
    (outputCapacity : Output → Nat) : State σ where
  feeder := stdin
  program := some initial
  input := { capacity := inputCapacity, writable := stdin.isSome }
  output o := { capacity := outputCapacity o }

/-- Whether the exchange is over: all parties have ended. -/
def State.isOver {σ : Type} (s : State σ) : Bool :=
  s.feeder.isNone && s.program.isNone && s.finished .out && s.finished .err

/-! ## §4 Moves -/

/-- Whose turn it is, and one less than the number of bytes that go. -/
inductive Move where
  | feed (more : Nat)
  /-- The feeder ends: all is written, or nobody can read it any more. -/
  | endFeeding
  | act (more : Nat)
  | collect (output : Output) (more : Nat)
  /-- The collector finds the end of an output. -/
  | endCollecting (output : Output)
  deriving DecidableEq, Repr

/-- What the program does when it is its turn. -/
def act {σ : Type} (s : State σ) (more : Nat) : Intent σ → Option (State σ)
  | .read most next =>
    if !s.input.readable then some { s with program := some (next none) }
    else if s.input.atEnd then some { s with program := some (next (some [])), sawEnd := true }
    else if more ≤ most && more < s.input.held.length then
      let bytes := s.input.held.take (more + 1)
      some { s with
        program := some (next (some bytes))
        input := s.input.drop (more + 1)
        consumed := s.consumed ++ bytes }
    else none
  | .write output data next =>
    let channel := s.output output
    if !channel.writable then some { s with program := some (next none) }
    else if data.isEmpty then some { s with program := some (next (some 0)) }
    else if more < data.length && channel.hasRoom (more + 1) then
      let bytes := data.take (more + 1)
      some { s with
        program := some (next (some (more + 1)))
        output := output.set (channel.put bytes) s.output
        written := output.set (s.written output ++ bytes) s.written }
    else none
  | .closeInput next => some { s with program := some next, input := s.input.closeReading }
  | .closeOutput output next =>
    some { s with
      program := some next
      output := output.set (s.output output).closeWriting s.output }
  | .think next => some { s with program := some next }
  | .exit =>
    some { s with
      program := none
      input := s.input.closeReading
      output := fun o => (s.output o).closeWriting }

/-- What a move does; none if its party has to wait or has ended. -/
def move {σ : Type} (program : Program σ) (s : State σ) : Move → Option (State σ)
  | .feed more =>
    match s.feeder with
    | none => none
    | some data =>
      if s.input.readable && more < data.length && s.input.hasRoom (more + 1) then
        some { s with
          feeder := some (data.drop (more + 1))
          input := s.input.put (data.take (more + 1)) }
      else none
  | .endFeeding =>
    match s.feeder with
    | none => none
    | some data =>
      if data.isEmpty || !s.input.readable then
        some { s with feeder := none, input := s.input.closeWriting }
      else none
  | .act more =>
    match s.program with
    | none => none
    | some state => act s more (program state)
  | .collect output more =>
    let channel := s.output output
    if more < channel.held.length then
      some { s with
        output := output.set (channel.drop (more + 1)) s.output
        collected := output.set (s.collected output ++ channel.held.take (more + 1)) s.collected }
    else none
  | .endCollecting output =>
    if (s.output output).atEnd && !s.finished output then
      some { s with finished := output.set true s.finished }
    else none

/-! ## §5 Runs -/

/-- The states that can be reached from `first`, whatever the order of turns. -/
inductive Reachable {σ : Type} (program : Program σ) (first : State σ) : State σ → Prop where
  | start : Reachable program first first
  | next {s t : State σ} (m : Move) :
      Reachable program first s → move program s m = some t → Reachable program first t

/-- Whether no party can move. -/
def Stuck {σ : Type} (program : Program σ) (s : State σ) : Prop :=
  ∀ m : Move, move program s m = none

end Exemplar.Exchange
