/-
Exemplar.FileSystem.Basic — a file system as a set of entries.

A place in the tree is a `Location`, the names on the way from it up to the root. A file system says
for each location what stands there, if anything: `node?` is the view that all else is stated
through. Entries are put and erased one at a time, and a location has at most one; `node?_put` and
`node?_erase` say what that does to the view.

Files have rights, of which one counts: to execute a program. A session is that of a user whom no
other right stops, so every directory may be searched, listed and changed, and every file may be
read and written. What is refused for want of such a right does not come up.

  §1 locations and nodes
  §2 file systems and their view
  §3 putting and erasing
  §4 time
  §5 directories
-/
import Exemplar.FileSystem.Name

namespace Exemplar

/-! ## §1 Locations and nodes -/

/-- A place in the tree: the names from it up to the root, the innermost first. The root is `[]`. -/
abbrev Location := List Name

/-- When a file was last written, seen from a session: before it, at one of its times, or at a time
still to come. -/
inductive Stamp where
  | old
  | written (time : Nat)
  | new
  deriving DecidableEq, Repr

/-- Whether a stamp is from before a time of the session. -/
def Stamp.precedes : Stamp → Nat → Bool
  | .old, _ => true
  | .written time, now => time < now
  | .new, _ => false

/-- A regular file. -/
structure File where
  data : Bytes
  /-- Who may do what: three bits for each of the owner, the group and all others. -/
  rights : Nat := 0o644
  stamp : Stamp
  deriving DecidableEq, Repr

/-- The rights of a program that all may execute. -/
def File.programRights : Nat := 0o755

/-- Whether anyone may execute a file. -/
def File.executable (file : File) : Bool := file.rights &&& 0o111 ≠ 0

/-- What stands at a location. -/
inductive Node where
  | directory
  | file (file : File)
  /-- A symbolic link, with the bytes of its target as they were given. -/
  | link (target : Bytes)
  deriving DecidableEq, Repr

/-! ## §2 File systems and their view -/

/-- A file system: the entries below the root, at most one for each location, and the time. -/
structure FileSystem where
  entries : List (Location × Node)
  nodup : (entries.map Prod.fst).Nodup
  /-- The time in the session, which only `tick` lets pass. -/
  time : Nat

namespace FileSystem

/-- The file system that holds the root only. -/
def empty : FileSystem := ⟨[], List.nodup_nil, 0⟩

instance : Inhabited FileSystem := ⟨empty⟩

/-- What stands at a location. The root is a directory. -/
def node? (fs : FileSystem) : Location → Option Node
  | [] => some .directory
  | location => fs.entries.lookup location

/-- Whether the file system has no symbolic link. -/
def LinkFree (fs : FileSystem) : Prop :=
  ∀ location target, fs.node? location ≠ some (.link target)

/-! ## §3 Putting and erasing -/

/-- Filtering by key keeps or hides a key as a whole. -/
theorem lookup_filter_key {α β : Type} [BEq α] [LawfulBEq α] (p : α → Bool) (a : α)
    (entries : List (α × β)) :
    (entries.filter fun e => p e.1).lookup a = if p a then entries.lookup a else none := by
  induction entries with
  | nil => simp
  | cons e entries ih =>
    obtain ⟨b, v⟩ := e
    by_cases hb : a = b
    · subst hb
      by_cases hp : p a <;> simp [hp, ih]
    · have hb' : (a == b) = false := by simpa using hb
      by_cases hp : p b <;> simp [List.lookup_cons, hp, ih, hb']

/-- The entries that a test on locations keeps. -/
def keep (fs : FileSystem) (p : Location → Bool) : FileSystem :=
  { fs with
    entries := fs.entries.filter fun e => p e.1
    nodup := (List.filter_sublist.map Prod.fst).nodup fs.nodup }

/-- What is kept is seen as before, and nothing else is seen. -/
theorem node?_keep (fs : FileSystem) (p : Location → Bool) {location : Location}
    (h : location ≠ []) :
    (fs.keep p).node? location = if p location then fs.node? location else none := by
  cases location with
  | nil => contradiction
  | cons name parent => exact lookup_filter_key p (name :: parent) fs.entries

/-- Puts a node at a location, in the place of what stood there. -/
def put (fs : FileSystem) (location : Location) (node : Node) : FileSystem :=
  { fs with
    entries := (location, node) :: (fs.keep (· ≠ location)).entries
    nodup := by
      refine List.nodup_cons.2 ⟨?_, (fs.keep (· ≠ location)).nodup⟩
      intro mem
      obtain ⟨e, he, rfl⟩ := List.mem_map.1 mem
      simp [keep] at he }

/-- Putting changes what is seen at one location only. -/
theorem node?_put (fs : FileSystem) (location : Location) (node : Node) {other : Location}
    (h : other ≠ []) :
    (fs.put location node).node? other =
      if other = location then some node else fs.node? other := by
  cases other with
  | nil => contradiction
  | cons name parent =>
    by_cases eq : name :: parent = location
    · subst eq
      simp [put, node?]
    · have kept := fs.node?_keep (· ≠ location) h
      simp only [node?, put, List.lookup_cons] at kept ⊢
      have hb : ((name :: parent) == location) = false := by simpa using eq
      rw [hb, kept]
      simp [eq]

/-- Takes away a location and all below it. -/
def erase (fs : FileSystem) (location : Location) : FileSystem :=
  fs.keep fun l => !location.isSuffixOf l

/-- Erasing hides a location and all below it, and nothing else. -/
theorem node?_erase (fs : FileSystem) (location : Location) {other : Location} (h : other ≠ []) :
    (fs.erase location).node? other =
      if location.isSuffixOf other then none else fs.node? other := by
  rw [erase, fs.node?_keep _ h]
  cases location.isSuffixOf other <;> rfl

/-! ## §4 Time -/

/-- The stamp of what is written now. -/
def now (fs : FileSystem) : Stamp := .written fs.time

/-- Lets time pass: all that was written so far precedes what is written from here on. -/
def tick (fs : FileSystem) : FileSystem := { fs with time := fs.time + 1 }

/-- Time changes nothing that is seen. -/
@[simp] theorem node?_tick (fs : FileSystem) (location : Location) :
    fs.tick.node? location = fs.node? location := by
  cases location <;> rfl

/-! ## §5 Directories -/

/-- The names of the entries right below a location, in the order in which the file system has them,
which is no order that a reader may rely on. -/
def children (fs : FileSystem) (location : Location) : List Name :=
  fs.entries.filterMap fun e =>
    match e.1 with
    | [] => none
    | name :: parent => if parent = location then some name else none

/-- Puts a directory at a location and at every location above it that has nothing. -/
def putDirectories (fs : FileSystem) : Location → FileSystem
  | [] => fs
  | name :: parent =>
    let above := fs.putDirectories parent
    match above.node? (name :: parent) with
    | none => above.put (name :: parent) .directory
    | some _ => above

end FileSystem

end Exemplar
