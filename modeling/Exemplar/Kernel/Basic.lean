/-
Exemplar.Kernel.Basic — what processes share.

Processes read and write by descriptors. A descriptor of a process leads to an opening, which knows
how far in its file reading and writing has come; several descriptors, also of several processes,
may lead to one opening. An opening leads to a file, to one end of a pipe, or to a device.

A pipe holds a bounded number of bytes. Reading from an empty one has to wait as long as some
process could still write, and writing to a full one as long as some process could still read.

  §1 pipes
  §2 openings
  §3 processes
  §4 the state that they share
-/
import Exemplar.FileSystem.Access
import Exemplar.Kernel.Limit
import Exemplar.Kernel.Signal

namespace Exemplar

/-! ## §1 Pipes -/

/-- A pipe: the bytes that it holds, the oldest in front and the youngest first among `behind`; how
many they are; and how many it can hold, if there is a limit. -/
structure Pipe where
  front : Bytes := []
  behind : List Bytes := []
  size : Nat := 0
  capacity : Option Nat := some 65536

namespace Pipe

/-- All that a pipe holds. -/
def held (pipe : Pipe) : Bytes := pipe.front ++ pipe.behind.reverse.flatten

/-- How many more bytes fit, at most `wanted`. -/
def room (pipe : Pipe) (wanted : Nat) : Nat :=
  match pipe.capacity with
  | none => wanted
  | some capacity => min wanted (capacity - pipe.size)

/-- Puts bytes in. -/
def put (pipe : Pipe) (bytes : Bytes) : Pipe :=
  { pipe with behind := bytes :: pipe.behind, size := pipe.size + bytes.length }

/-- Takes at most so many bytes out. -/
def take (pipe : Pipe) (count : Nat) : Bytes × Pipe :=
  let front := if pipe.front.isEmpty then pipe.held else pipe.front
  let behind := if pipe.front.isEmpty then [] else pipe.behind
  let (got, front) := front.splitAt count
  (got, { pipe with front, behind, size := pipe.size - got.length })

end Pipe

/-! ## §2 Openings -/

/-- What an opening leads to. -/
inductive Target where
  | file (location : Location)
  | directory (location : Location)
  /-- The end of a pipe at which bytes come out. -/
  | outlet (pipe : Nat)
  /-- The end of a pipe at which bytes go in. -/
  | inlet (pipe : Nat)
  /-- Takes everything and gives nothing. -/
  | null
  /-- Takes everything and gives bytes zero without end. -/
  | zero
  /-- Takes nothing and gives bytes zero without end. -/
  | full
  deriving DecidableEq, Repr

/-- What a file is opened for. -/
structure Mode where
  reads : Bool := false
  writes : Bool := false
  /-- Whether a file is made where there is none. -/
  makes : Bool := false
  /-- Whether there must be no file. -/
  fresh : Bool := false
  /-- Whether what the file holds is dropped. -/
  empties : Bool := false
  /-- Whether all that is written goes to the end. -/
  appends : Bool := false
  deriving DecidableEq, Repr

/-- For reading. -/
def Mode.read : Mode := { reads := true }

/-- For writing, with what the file holds dropped. -/
def Mode.write : Mode := { writes := true, makes := true, empties := true }

/-- For writing at the end. -/
def Mode.append : Mode := { writes := true, makes := true, appends := true }

/-- An opening. -/
structure Opening where
  target : Target
  mode : Mode
  position : Nat := 0
  deriving Repr

/-! ## §3 Processes -/

/-- A descriptor: the opening that it leads to, and whether it is withheld from a program
that takes over the process. -/
structure Descriptor where
  opening : Nat
  withheld : Bool := false
  deriving Repr

/-- What is known of a process. -/
structure Entry where
  parent : Nat
  /-- Its descriptors, by number. -/
  descriptors : List (Nat × Descriptor) := []
  here : Location
  /-- The rights that files do not get that it makes. -/
  mask : Nat := 0o022
  limits : Limits := []
  /-- The signals that it takes no notice of. -/
  ignored : List Signal := []
  /-- The signals that it wants to be told of. -/
  caught : List Signal := []
  /-- Those of them that have come and that it has not been told of. -/
  pending : List Signal := []
  stopped : Bool := false
  /-- The signal that ends it when it is its turn, if one has come. -/
  doom : Option Signal := none
  /-- How it has ended, if it has. -/
  ending : Option Ending := none

/-! ## §4 The state that they share -/

/-- What processes share. -/
structure Kernel where
  files : FileSystem
  openings : List (Nat × Opening) := []
  pipes : List (Nat × Pipe) := []
  entries : List (Nat × Entry) := []
  /-- The next number for an opening, a pipe or a process. -/
  next : Nat := 1000
  /-- The time, in microseconds. -/
  clock : Nat := 0

namespace Kernel

/-- What is known of a process. -/
def entry? (k : Kernel) (pid : Nat) : Option Entry := k.entries.lookup pid

/-- Changes what is known of a process. -/
def update (k : Kernel) (pid : Nat) (f : Entry → Entry) : Kernel :=
  { k with entries := k.entries.map fun e => if e.1 = pid then (pid, f e.2) else e }

/-- The directory that a process reads paths from. -/
def hereOf (k : Kernel) (pid : Nat) : Location :=
  ((k.entry? pid).map (·.here)).getD []

/-- The rights that files do not get that a process makes. -/
def maskOf (k : Kernel) (pid : Nat) : Nat := ((k.entry? pid).map (·.mask)).getD 0

/-- The limits of a process. -/
def limitsOf (k : Kernel) (pid : Nat) : Limits := ((k.entry? pid).map (·.limits)).getD []

/-- The opening that a descriptor of a process leads to, with its number. -/
def opening? (k : Kernel) (pid descriptor : Nat) : Option (Nat × Opening) := do
  let entry ← k.entry? pid
  let d ← entry.descriptors.lookup descriptor
  let opening ← k.openings.lookup d.opening
  pure (d.opening, opening)

/-- Changes an opening. -/
def setOpening (k : Kernel) (id : Nat) (opening : Opening) : Kernel :=
  { k with openings := k.openings.map fun e => if e.1 = id then (id, opening) else e }

/-- Whether a descriptor of some process leads to an opening. -/
def isHeld (k : Kernel) (id : Nat) : Bool :=
  k.entries.any fun e => e.2.descriptors.any fun d => d.2.opening = id

/-- Whether a descriptor of some process leads to one of these targets. -/
def isReachable (k : Kernel) (p : Target → Bool) : Bool :=
  k.openings.any fun e => p e.2.target && k.isHeld e.1

/-- Forgets openings that no descriptor leads to, among those given. -/
def sweep (k : Kernel) (ids : List Nat) : Kernel :=
  let gone := ids.filter fun id => !k.isHeld id
  if gone.isEmpty then k
  else { k with openings := k.openings.filter fun e => !gone.contains e.1 }

/-- Lets time go on; what is written before and after that differs in age. -/
def goOnTo (k : Kernel) (time : Nat) : Kernel :=
  { k with clock := max k.clock time, files := k.files.tick }

/-- The pipe of a number. -/
def pipe (k : Kernel) (id : Nat) : Pipe := (k.pipes.lookup id).getD {}

/-- Changes a pipe. -/
def setPipe (k : Kernel) (id : Nat) (pipe : Pipe) : Kernel :=
  { k with pipes := k.pipes.map fun e => if e.1 = id then (id, pipe) else e }

/-- Makes a pipe and gives its number. -/
def addPipe (k : Kernel) (pipe : Pipe) : Nat × Kernel :=
  (k.next, { k with pipes := (k.next, pipe) :: k.pipes, next := k.next + 1 })

/-- Makes an opening and gives its number. -/
def addOpening (k : Kernel) (opening : Opening) : Nat × Kernel :=
  (k.next, { k with openings := (k.next, opening) :: k.openings, next := k.next + 1 })

/-- Forgets pipes that can no longer be used at all. -/
def sweepPipes (k : Kernel) : Kernel :=
  let used (id : Nat) : Bool := k.openings.any fun e =>
    e.2.target = .outlet id || e.2.target = .inlet id
  { k with pipes := k.pipes.filter fun e => e.2.capacity.isNone || used e.1 }

end Kernel

end Exemplar
