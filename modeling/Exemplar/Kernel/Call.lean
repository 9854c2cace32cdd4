/-
Exemplar.Kernel.Call — what processes can ask for.

Every call is made by a process, given by its number. A call either has to wait, which is none, or
it is carried out in one go and gives a value or an error.

  §1 paths
  §2 descriptors
  §3 opening
  §4 reading and writing
  §5 beginning and ending
-/
import Exemplar.Kernel.Basic
import Exemplar.Text.Octets

namespace Exemplar

namespace Kernel

/-! ## §1 Paths -/

/-- The name of an entry, one character for each byte. -/
def octets (name : Name) : String := Octets.ofBytes name.bytes

/-- The steps of a path that has one character for each byte. -/
def stepsOf (path : String) : List Step :=
  (Text.split '/' path).map fun part => Step.ofName (Name.ofBytes (Octets.bytes part))

/-- The place that a path names for a process in the directory at `here`. -/
def resolve (files : FileSystem) (here : Location) (path : String) (aim : Aim := .find) :
    Except Errno Place :=
  if path = "" then .error .noEntry
  else if FileSystem.pathLimit ≤ path.length then .error .nameTooLong
  else files.walk aim FileSystem.linkLimit (if path.front = '/' then [] else here) (stepsOf path)

/-- What stands at a path, links followed. -/
def stat (k : Kernel) (pid : Nat) (path : String) : Except Errno (Location × Node) :=
  match resolve k.files (k.hereOf pid) path with
  | .ok (.taken location node) => .ok (location, node)
  | .ok (.free _) => .error .noEntry
  | .error errno => .error errno

/-- What stands at a path; a link at its end stands for itself. -/
def lstat (k : Kernel) (pid : Nat) (path : String) : Except Errno (Location × Node) :=
  let steps := stepsOf path
  match steps.getLast? with
  | some (.into name) =>
    let start := if path.front = '/' then [] else k.hereOf pid
    match k.files.walk .find FileSystem.linkLimit start steps.dropLast with
    | .ok (.taken parent .directory) =>
      match k.files.node? (name :: parent) with
      | some (.link target) => .ok (name :: parent, .link target)
      | _ => k.stat pid path
    | _ => k.stat pid path
  | _ => k.stat pid path

/-- Whether a link stands at a path. -/
def isLink (k : Kernel) (pid : Nat) (path : String) : Bool :=
  match k.lstat pid path with
  | .ok (_, .link _) => true
  | _ => false

/-- The devices, by their locations. Descriptors have names too, which mean those of the process
that uses the name. -/
inductive Device where
  | null
  | zero
  | full
  | terminal
  | descriptor (number : Nat)
  deriving DecidableEq, Repr

/-- The numbers of a device: that of its kind and its own. Only those with names of their own have
some that are known. -/
def Device.numbers : Device → String
  | .null => "1, 3"
  | .zero => "1, 5"
  | .full => "1, 7"
  | .terminal => "5, 0"
  | .descriptor _ => ""

/-- The device at a location. -/
def device? : Location → Option Device
  | [.text name, .text "dev"] =>
    match name with
    | "null" => some .null
    | "zero" => some .zero
    | "full" => some .full
    | "tty" => some .terminal
    | _ => none
  | [.text name, .text "fd", .text "self", .text "proc"] => name.toNat?.map .descriptor
  | _ => none

/-- Goes to another directory. -/
def changeDirectory (k : Kernel) (pid : Nat) (path : String) : Except Errno Unit × Kernel :=
  match k.stat pid path with
  | .ok (location, .directory) => (.ok (), k.update pid fun e => { e with here := location })
  | .ok _ => (.error .notDirectory, k)
  | .error errno => (.error errno, k)

/-! ## §2 Descriptors -/

/-- The first number from `least` on that no descriptor has. -/
def freeNumber (descriptors : List (Nat × Descriptor)) (least : Nat) : Nat :=
  ((List.range (descriptors.length + 1)).map (least + ·)).find?
    (fun n => (descriptors.lookup n).isNone) |>.getD least

/-- Leads a descriptor of a process to an opening. -/
def point (k : Kernel) (pid number : Nat) (descriptor : Descriptor) : Kernel :=
  let old := ((k.entry? pid).bind fun e => e.descriptors.lookup number).map (·.opening)
  let k := k.update pid fun e =>
    { e with descriptors := (number, descriptor) :: e.descriptors.filter (·.1 ≠ number) }
  k.sweep old.toList

/-- Whether a process may have a descriptor of a number. -/
def mayNumber (k : Kernel) (pid number : Nat) : Bool :=
  !(k.limitsOf pid).exceeds .descriptors (number + 1)

/-- Closes a descriptor. -/
def close (k : Kernel) (pid number : Nat) : Except Errno Unit × Kernel :=
  match (k.entry? pid).bind fun e => e.descriptors.lookup number with
  | none => (.error .badDescriptor, k)
  | some d =>
    let k := k.update pid fun e =>
      { e with descriptors := e.descriptors.filter (·.1 ≠ number) }
    (.ok (), k.sweep [d.opening])

/-- Leads another descriptor to where one leads. -/
def duplicate (k : Kernel) (pid number target : Nat) : Except Errno Unit × Kernel :=
  match (k.entry? pid).bind fun e => e.descriptors.lookup number with
  | none => (.error .badDescriptor, k)
  | some d =>
    if number = target then (.ok (), k)
    else if !k.mayNumber pid target then (.error .badDescriptor, k)
    else (.ok (), k.point pid target { opening := d.opening })

/-- Leads the first free descriptor from `least` on to where one leads; other programs do not get
it. -/
def save (k : Kernel) (pid number least : Nat) : Except Errno Nat × Kernel :=
  match k.entry? pid with
  | none => (.error .badDescriptor, k)
  | some entry =>
    match entry.descriptors.lookup number with
    | none => (.error .badDescriptor, k)
    | some d =>
      let free := freeNumber entry.descriptors least
      if !k.mayNumber pid least then (.error .invalidArgument, k)
      else if !k.mayNumber pid free then (.error .tooManyFiles, k)
      else (.ok free, k.point pid free ⟨d.opening, true⟩)

/-- The first free descriptor of a process, if it may have one more. -/
def nextNumber? (k : Kernel) (pid : Nat) : Option Nat :=
  let free := freeNumber (((k.entry? pid).map (·.descriptors)).getD []) 0
  if k.mayNumber pid free then some free else none

/-- Leads the first free descriptor to a new opening. -/
def install (k : Kernel) (pid : Nat) (opening : Opening) : Except Errno Nat × Kernel :=
  match k.nextNumber? pid with
  | none => (.error .tooManyFiles, k)
  | some free =>
    let (id, k) := k.addOpening opening
    (.ok free, k.point pid free { opening := id })

/-- Makes a pipe; gives the descriptors from which it is read and to which it is written. -/
def makePipe (k : Kernel) (pid : Nat) (pipe : Pipe := {}) : Except Errno (Nat × Nat) × Kernel :=
  let (id, made) := k.sweepPipes.addPipe pipe
  match made.install pid ⟨.outlet id, .read, 0⟩ with
  | (.error errno, _) => (.error errno, k)
  | (.ok reading, made) =>
    match made.install pid ⟨.inlet id, { writes := true }, 0⟩ with
    | (.error errno, _) => (.error errno, k)
    | (.ok writing, made) => (.ok (reading, writing), made)

/-! ## §3 Opening -/

/-- Opens what stands at a location. -/
def openAt (k : Kernel) (pid : Nat) (location : Location) (file : File) (mode : Mode) :
    Except Errno Nat × Kernel :=
  let openTarget (target : Target) : Except Errno Nat × Kernel := k.install pid ⟨target, mode, 0⟩
  let openFile (location : Location) (file : File) : Except Errno Nat × Kernel :=
    let k := if mode.empties then
        let emptied := { file with data := [], stamp := k.files.now }
        { k with files := k.files.put location (.file emptied) }
      else k
    k.install pid ⟨.file location, mode, 0⟩
  match device? location with
  | none => if mode.fresh then (.error .fileExists, k) else openFile location file
  | some .null => openTarget .null
  | some .zero => openTarget .zero
  | some .full => openTarget .full
  | some .terminal => (.error .noDevice, k)
  | some (.descriptor n) =>
    match k.opening? pid n with
    | none => (.error .noEntry, k)
    | some (_, opening) =>
      match opening.target with
      | .file location =>
        match k.files.node? location with
        | some (.file file) => openFile location file
        | _ => (.error .noEntry, k)
      | .inlet pipe => openTarget (if mode.writes then .inlet pipe else .outlet pipe)
      | .outlet pipe => openTarget (if mode.writes then .inlet pipe else .outlet pipe)
      | target => openTarget target

/-- An empty file as a process makes it. -/
def newFile (k : Kernel) (pid : Nat) : File :=
  { data := [], rights := 0o666 &&& (0o777 ^^^ k.maskOf pid), stamp := k.files.now }

/-- Opens a file; gives its descriptor. No file can be made where the descriptors have names, and
none is new where a link stands, wherever it leads. -/
def openFile (k : Kernel) (pid : Nat) (path : String) (mode : Mode) : Except Errno Nat × Kernel :=
  if (k.nextNumber? pid).isNone then (.error .tooManyFiles, k)
  else if mode.fresh && k.isLink pid path then (.error .fileExists, k)
  else match resolve k.files (k.hereOf pid) path (if mode.makes then .make else .find) with
  | .error errno => (.error errno, k)
  | .ok (.free location) =>
    if mode.makes && location.getLast? ≠ some (.text "proc") then
      let files := k.files.put location (.file (k.newFile pid))
      { k with files }.install pid ⟨.file location, mode, 0⟩
    else (.error .noEntry, k)
  | .ok (.taken location .directory) =>
    if mode.writes then (.error .isDirectory, k)
    else k.install pid ⟨.directory location, mode, 0⟩
  | .ok (.taken location (.file file)) => k.openAt pid location file mode
  | .ok (.taken _ (.link _)) => (.error .linkLoop, k)

/-! ## §4 Reading and writing -/

/-- What the file at a location holds. -/
def contentAt (k : Kernel) (location : Location) : Bytes :=
  match k.files.node? location with
  | some (.file file) => file.data
  | _ => []

/-- Reads at most `count` bytes; none at all mean the end. -/
def read (k : Kernel) (pid number count : Nat) : Option (Except Errno Bytes × Kernel) :=
  match k.opening? pid number with
  | none => some (.error .badDescriptor, k)
  | some (id, opening) =>
    if !opening.mode.reads then some (.error .badDescriptor, k)
    else match opening.target with
      | .file location =>
        let got := ((k.contentAt location).drop opening.position).take count
        some (.ok got, k.setOpening id { opening with position := opening.position + got.length })
      | .directory _ => some (.error .isDirectory, k)
      | .outlet pipe =>
        let held := k.pipe pipe
        if held.size = 0 then
          if k.isReachable (· = .inlet pipe) then none else some (.ok [], k)
        else
          let (got, rest) := held.take count
          some (.ok got, k.setPipe pipe rest)
      | .inlet _ => some (.error .badDescriptor, k)
      | .null => some (.ok [], k)
      | .zero | .full => some (.ok (List.replicate count 0), k)

/-- How many bytes of a file are left up to the end of a line, which counts too; one where this
cannot be known before. -/
def lineLength (k : Kernel) (pid number : Nat) : Nat :=
  match k.opening? pid number with
  | some (_, opening) =>
    match opening.target with
    | .file location =>
      (((k.contentAt location).drop opening.position).takeWhile (· ≠ 10)).length + 1
    | _ => 1
  | none => 1

/-- Ends a process: its descriptors are closed, and its parent can learn of it. -/
def finish (k : Kernel) (pid : Nat) (ending : Ending) : Kernel :=
  match k.entry? pid with
  | none => k
  | some entry =>
    let k := k.update pid fun e => { e with ending := some ending, descriptors := [] }
    let k := k.sweep (entry.descriptors.map (·.2.opening))
    k.update entry.parent fun e =>
      if e.caught.contains .child then { e with pending := e.pending ++ [.child] } else e

/-- Sends a signal to a process that has not ended. One that is to end takes no more of them, unless
it stands still. -/
def signal (k : Kernel) (pid : Nat) (signal : Signal) : Except Errno Unit × Kernel :=
  match k.entry? pid with
  | none => (.error .noProcess, k)
  | some entry =>
    if entry.ending.isSome || signal.number = 0 then (.ok (), k)
    else if signal.number = 18 then (.ok (), k.update pid fun e => { e with stopped := false })
    else if entry.doom.isSome && !(entry.stopped && signal.isFinal) then (.ok (), k)
    else if !signal.isFinal && entry.ignored.contains signal then (.ok (), k)
    else if !signal.isFinal && entry.caught.contains signal then
      (.ok (), k.update pid fun e => { e with pending := e.pending ++ [signal] })
    else if signal.isHarmless then (.ok (), k)
    else if signal.stops then (.ok (), k.update pid fun e => { e with stopped := true })
    else (.ok (), k.update pid fun e => { e with doom := some signal })

/-- Sends a signal to all processes. -/
def signalAll (k : Kernel) (signal : Signal) : Kernel :=
  (k.entries.map Prod.fst).foldl (fun k pid => (k.signal pid signal).2) k

/-- The most bytes that go into a pipe all together or not at all. -/
def atomicSize : Nat := 4096

/-- Bytes with others in the place of those from a position on; what is missing before is zero. -/
def splice (data : Bytes) (position : Nat) (bytes : Bytes) : Bytes :=
  data.take position ++ List.replicate (position - data.length) 0 ++ bytes ++
    data.drop (position + bytes.length)

/-- Writes bytes; gives how many of them were written. Who writes to a pipe that nobody can read, or
to a file that may not become larger, is sent a signal. -/
def write (k : Kernel) (pid number : Nat) (bytes : Bytes) : Option (Except Errno Nat × Kernel) :=
  match k.opening? pid number with
  | none => some (.error .badDescriptor, k)
  | some (id, opening) =>
    if !opening.mode.writes then some (.error .badDescriptor, k)
    else match opening.target with
      | .file location =>
        match k.files.node? location with
        | some (.file file) =>
          let position := if opening.mode.appends then file.data.length else opening.position
          let room := (((k.limitsOf pid).of .fileSize).soft.map (· - position)).getD bytes.length
          if !bytes.isEmpty && room = 0 then
            some (.error .fileTooLarge, (k.signal pid .fileSize).2)
          else
            let bytes := bytes.take room
            let files := k.files.put location
              (.file { file with data := splice file.data position bytes, stamp := k.files.now })
            some (.ok bytes.length,
              { k with files }.setOpening id { opening with position := position + bytes.length })
        | _ => some (.ok bytes.length, k)
      | .inlet pipe =>
        if !k.isReachable (· = .outlet pipe) && (k.pipe pipe).capacity.isSome then
          some (.error .brokenPipe, (k.signal pid .pipe).2)
        else
          let held := k.pipe pipe
          let room := held.room bytes.length
          if room < bytes.length && (room = 0 || bytes.length ≤ atomicSize) then none
          else some (.ok room, k.setPipe pipe (held.put (bytes.take room)))
      | .directory _ | .outlet _ => some (.error .badDescriptor, k)
      | .null | .zero => some (.ok bytes.length, k)
      | .full => some (if bytes.isEmpty then .ok 0 else .error .noSpace, k)

/-- Puts the position of an opening so many bytes back. -/
def rewind (k : Kernel) (pid number count : Nat) : Except Errno Unit × Kernel :=
  match k.opening? pid number with
  | none => (.error .badDescriptor, k)
  | some (id, opening) =>
    match opening.target with
    | .outlet _ | .inlet _ => (.error .cannotSeek, k)
    | .file _ =>
      (.ok (), k.setOpening id { opening with position := opening.position - count })
    | _ => (.ok (), k)

/-! ## §5 Beginning and ending -/

/-- Makes a process that is like another one; gives its number. -/
def fork (k : Kernel) (pid : Nat) : Nat × Kernel :=
  let like := (k.entry? pid).getD { parent := pid, here := [] }
  (k.next, { k with
    entries := k.entries ++ [(k.next, { like with parent := pid, pending := [] })]
    next := k.next + 1 })

/-- What another program finds when it takes over a process: descriptors that are its own stay, and
signals are ignored or do what they do by themselves. -/
def handOver (k : Kernel) (pid : Nat) : Kernel :=
  let gone := (((k.entry? pid).map (·.descriptors)).getD []).filter (·.2.withheld)
  let k := k.update pid fun e =>
    { e with descriptors := e.descriptors.filter fun d => !d.2.withheld, caught := [] }
  k.sweep (gone.map (·.2.opening))

/-- A child that has ended and how, if there is one; it is forgotten then. -/
def reap (k : Kernel) (pid : Nat) : Option (Nat × Ending) × Kernel :=
  let ended := k.entries.findSome? fun e =>
    if e.2.parent = pid then e.2.ending.map (e.1, ·) else none
  match ended with
  | some (child, ending) =>
    (some (child, ending), { k with entries := k.entries.filter (·.1 ≠ child) })
  | none => (none, k)

/-- Whether a process has a child. -/
def hasChild (k : Kernel) (pid : Nat) : Bool :=
  k.entries.any fun e => e.2.parent = pid

/-- The signals that have come for a process, which are taken from it. -/
def takePending (k : Kernel) (pid : Nat) : List Signal × Kernel :=
  match k.entry? pid with
  | none => ([], k)
  | some entry =>
    if entry.pending.isEmpty then ([], k)
    else (entry.pending, k.update pid fun e => { e with pending := [] })

end Kernel

end Exemplar
