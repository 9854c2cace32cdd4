/-
Exemplar.Kernel.Limit — how much a process may use.

Each thing that a process uses has two limits: one that counts, which the process may move, and one
up to which it may, which can only be lowered. Processes have the limits of the one that started
them.
-/
import Exemplar.Errno

namespace Exemplar

/-- What a process uses. -/
inductive Resource where
  | time
  | fileSize
  | data
  | stack
  | coreSize
  | memory
  | lockedMemory
  | processes
  | descriptors
  | space
  | locks
  | priority
  deriving DecidableEq, Repr

/-- A limit: the one that counts and the one up to which it may be moved, where there are any. -/
structure Limit where
  soft : Option Nat := none
  hard : Option Nat := none
  deriving DecidableEq, Repr

namespace Limit

/-- Whether a limit is below another one. -/
def isBelow : Option Nat → Option Nat → Bool
  | some a, some b => a < b
  | some _, none => true
  | none, _ => false

/-- The limit that a resource has at first. -/
def start : Resource → Limit
  | .stack => { soft := some 0x800000 }
  | .coreSize => { soft := some 0 }
  | .lockedMemory => { soft := some 0x800000, hard := some 0x800000 }
  | .processes => { soft := some 128619, hard := some 128619 }
  | .descriptors => { soft := some 20000, hard := some 20000 }
  | .priority => { soft := some 0, hard := some 0 }
  | _ => {}

/-- Why a limit cannot take the place of another one, if it cannot. -/
def refusal? (old new : Limit) : Option Errno :=
  if isBelow new.hard new.soft then some .invalidArgument
  else if isBelow old.hard new.hard then some .notPermitted
  else none

end Limit

/-- The limits of a process that differ from those at first. -/
abbrev Limits := List (Resource × Limit)

/-- The limit of a resource. -/
def Limits.of (limits : Limits) (resource : Resource) : Limit :=
  (limits.lookup resource).getD (Limit.start resource)

/-- Whether more of a resource is used than may be. -/
def Limits.exceeds (limits : Limits) (resource : Resource) (used : Nat) : Bool :=
  Limit.isBelow (limits.of resource).soft (some used)

end Exemplar
