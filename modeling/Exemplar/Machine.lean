/-
Exemplar.Machine — starting programs.

A program whose name has a slash is the file of that path. Any other is looked for along the search
path: a directory without it is passed over, and so is one in which it may not be executed, but that
is remembered for the end, where else the last directory says why there is none. A process runs
beside those that it starts until it has ended and nobody can write any more what is captured, which
is all and is decoded, broken bytes shown as U+FFFD.

A machine is one toolchain among all those that the harness is reasoned about. The shell, the
utilities and the kernel that it brings stand for a system on which the program can run; of what
they do nothing is assumed elsewhere.

  §1 machines
  §2 finding the file to execute
  §3 processes
  §4 the machine as a toolchain
-/
import Exemplar.Kernel.Schedule
import Exemplar.Search
import Exemplar.Toolchain.Basic
import Exemplar.Users
import Exemplar.Utility.Catalogue

namespace Exemplar

/-! ## §1 Machines -/

/-- Where programs are started: the directory they start in and the variables they see. -/
structure Machine where
  here : Location
  environment : List (String × String)

namespace Machine

/-- The value of a variable. -/
def valueOf? (machine : Machine) (name : String) : Option String :=
  machine.environment.lookup name

/-- The entries by which devices and descriptors are reached. -/
def devices : List (List String × Node) :=
  let place : Node := .file { data := [], rights := 0o666, stamp := .old }
  let number (n : Nat) : List String × Node := (["proc", "self", "fd", toString n], place)
  let link (name target : String) : List String × Node :=
    (["dev", name], .link (Utf8.encode target))
  ["null", "zero", "full", "tty"].map (fun name => (["dev", name], place)) ++
    [link "stdin" "/proc/self/fd/0", link "stdout" "/proc/self/fd/1",
     link "stderr" "/proc/self/fd/2", link "fd" "/proc/self/fd"] ++
    (List.range 10).map number

/-- The directories of every machine, and the links between them. -/
def directories : List (List String × Node) :=
  let below (top : List String) (names : List String) : List (List String × Node) :=
    names.map fun name => (top ++ [name], .directory)
  let link (names : List String) (target : String) : List String × Node :=
    (names, .link (Utf8.encode target))
  below [] ["boot", "dev", "etc", "home", "media", "mnt", "opt", "proc", "root", "run", "srv",
    "sys", "tmp", "usr", "var"] ++
    below ["usr"] ["bin", "games", "include", "lib", "lib64", "libexec", "local", "sbin", "share",
      "src"] ++
    below ["var"] ["backups", "cache", "lib", "local", "log", "mail", "opt", "spool", "tmp"] ++
    [link ["bin"] "usr/bin", link ["lib"] "usr/lib", link ["lib64"] "usr/lib64",
     link ["sbin"] "usr/sbin", link ["var", "lock"] "/run/lock", link ["var", "run"] "/run",
     (["run", "lock"], .directory)]

/-- A file system with devices, with users, and with the programs installed in `/usr/bin`, which is
also `/bin`. A program may have another name, by a link. -/
def installed : FileSystem :=
  let users := (["etc", "passwd"], Node.file { data := User.file, stamp := .old })
  let programs := Utility.names.map fun name =>
    (["usr", "bin", name], Node.file ⟨Image.ofUtility name, File.programRights, .old⟩)
  let links := Utility.otherNames.map fun (name, program) =>
    (["usr", "bin", name], Node.link (Utf8.encode program))
  (directories ++ devices ++ users :: programs ++ links).foldl (fun fs (names, node) =>
    let location : Location := (names.map Name.text).reverse
    (fs.putDirectories location.tail).put location node) FileSystem.empty

/-! ## §2 Finding the file to execute -/

/-- The search path where the variable is not set. -/
def defaultSearchPath : String := "/bin:/usr/bin"

/-- The files that a program without a slash may be, one for each directory of the search path in
its order. A directory whose name is too long for any path is passed over; in its stead, unless it
is the last one, the directory is taken from which paths are read. -/
def candidates (searchPath program : String) : List String :=
  let rec go : List String → List String
    | [] => []
    | dir :: rest =>
      if FileSystem.pathLimit ≤ dir.utf8ByteSize then
        (if rest.isEmpty then [] else program :: go rest)
      else (if dir = "" then program else dir ++ "/" ++ program) :: go rest
  go (Text.split ':' searchPath)

/-- The utility that a call runs, with all its arguments. -/
def loadCall (machine : Machine) (fs : FileSystem) (call : Call) :
    Except Cause (String × List String) :=
  let argv := call.program :: call.args
  let burden : Image.Burden := {
    arguments := argv.map String.utf8ByteSize
    environment := machine.environment.map fun e =>
      Image.Burden.sizeOf e.1.utf8ByteSize e.2.utf8ByteSize
    stack := (Limit.start .stack).soft }
  if argv.any fun arg => arg.toList.contains '\x00' then .error .nulInCommand
  else if call.program = "" then .error (.system .noEntry)
  else if call.program.toList.contains '/' then
    Image.load fs machine.here call.program argv burden
  else
    Image.loadFirst fs machine.here argv burden .noEntry
      (candidates ((machine.valueOf? "PATH").getD defaultSearchPath) call.program)

/-! ## §3 Processes -/

/-- What a process leaves: its exit code and the bytes that it wrote. -/
structure Capture where
  code : ExitCode
  stdout : Bytes
  stderr : Bytes

/-- The outcome of a captured process. -/
def Capture.outcome (capture : Capture) : Outcome where
  code := capture.code
  stdout := Utf8.decodeLossy capture.stdout
  stderr := Utf8.decodeLossy capture.stderr

/-- How often a program may start another in its own place. -/
def startLimit : Nat := 100000

/-- The number of the process that a call starts. -/
def firstProcess : Nat := 100

/-- The numbers of the pipes to its standard input and from its standard output and error. -/
def inputPipe : Nat := 10

@[inherit_doc inputPipe]
def outputPipe : Nat := 11

@[inherit_doc inputPipe]
def errorPipe : Nat := 12

/-- What processes share when one starts: its input is there as a whole, and there is room for all
that it writes. -/
def startKernel (machine : Machine) (fs : FileSystem) (stdin : Option Bytes) : Kernel :=
  let input : Target := if stdin.isSome then .outlet inputPipe else .null
  let data := stdin.getD []
  { files := fs
    openings := [(0, ⟨input, .read, 0⟩), (1, ⟨.inlet outputPipe, { writes := true }, 0⟩),
      (2, ⟨.inlet errorPipe, { writes := true }, 0⟩)]
    pipes := [(inputPipe, { front := data, size := data.length, capacity := none }),
      (outputPipe, { capacity := none }), (errorPipe, { capacity := none })]
    entries := [(firstProcess, {
      parent := 1, here := machine.here
      descriptors := [(0, ⟨0, false⟩), (1, ⟨1, false⟩), (2, ⟨2, false⟩)] })] }

/-- Whether the first process has ended and nobody can write any more what is captured. -/
def isOver (k : Kernel) : Bool :=
  let hasEnded := ((k.entry? firstProcess).map (·.ending.isSome)).getD true
  hasEnded && !k.isReachable fun target => target = .inlet outputPipe || target = .inlet errorPipe

/-- Runs a program to its end. -/
def runProgram (machine : Machine) (fs : FileSystem) (stdin : Option Bytes) (name : String)
    (argv : List String) : Capture × FileSystem :=
  let environment := machine.environment.map fun v => (Octets.ofText v.1, Octets.ofText v.2)
  match Utility.program? startLimit name with
  | none => (⟨some 127, [], []⟩, fs)
  | some program =>
    let process := program (argv.map Octets.ofText) environment
    let k := Schedule.run isOver Task.endless 0 none [(firstProcess, process)]
      (machine.startKernel fs stdin)
    let code : ExitCode := match (k.entry? firstProcess).bind (·.ending) with
      | some (.exited status) => some status
      | _ => none
    (⟨code, (k.pipe outputPipe).held, (k.pipe errorPipe).held⟩, k.files)

/-- Makes a call: the outcome, or why the program did not start, and the files after it. -/
def perform (machine : Machine) (fs : FileSystem) (call : Call) :
    Except Cause Outcome × FileSystem :=
  match machine.loadCall fs call with
  | .error cause => (.error cause, fs)
  | .ok (name, argv) =>
    let (capture, files) := machine.runProgram fs call.stdin name argv
    (.ok capture.outcome, files)

/-! ## §4 The machine as a toolchain -/

/-- The record that a call makes before it starts. -/
def startRecord (call : Call) : Log.Record :=
  ⟨.debug, .process, "exec " ++ call.program ++ " " ++ Text.joinWith " " call.args⟩

/-- The record that a call makes when it has ended. -/
def endRecord (call : Call) (code : ExitCode) : Log.Record :=
  ⟨.debug, .process, call.program ++ " exited with " ++ code.shown⟩

/-- The toolchain of the programs that the machine can start. -/
def toolchain (machine : Machine) : Toolchain Unit where
  execute _ fs call :=
    let (outcome, files) := machine.perform fs call
    { outcome, state := (), files
      records := startRecord call :: match outcome with
        | .ok o => [endRecord call o.code]
        | .error _ => [] }
  locate _ fs program :=
    (Search.find? fs machine.here (machine.valueOf? "PATH") program, (), fs)

end Machine

end Exemplar
