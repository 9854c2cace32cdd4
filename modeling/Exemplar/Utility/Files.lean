/-
Exemplar.Utility.Files — making, removing and moving files: `mkdir`, `rm`, `touch`, `cp`, `mv` and
`chmod`.

  §1 paths
  §2 making and removing
  §3 copying and moving
  §4 rights
-/
import Exemplar.FileSystem.Rights
import Exemplar.FileSystem.Tree
import Exemplar.Utility.Basic

namespace Exemplar.Utility.Files

/-! ## §1 Paths -/

/-- Where the steps of a path start. -/
def originOf (k : Kernel) (pid : Nat) (path : String) : Location :=
  if path.front = '/' then [] else k.hereOf pid

/-- The steps of a path without the slashes at its end. -/
def stepsTo (path : String) : List Step :=
  Kernel.stepsOf (String.ofList (path.toList.reverse.dropWhile (· = '/')).reverse)

/-- The location of an entry, with a link at the end not followed. -/
def locationOf? (k : Kernel) (pid : Nat) (path : String) : Option Location :=
  k.files.lastLocation? (originOf k pid path) (stepsTo path)

/-- Does something with the files; gives why that was not possible. -/
def change (f : Nat → Kernel → Except Errno FileSystem) : Tool (Option Errno) :=
  task (Task.act fun pid k => match f pid k with
    | .ok files => (none, { k with files })
    | .error errno => (some errno, k))

/-- Tells what was not possible. -/
def tell (what operand : String) (errno : Errno) : Tool Unit := do
  grumble ("cannot " ++ what ++ " " ++ (← quotedName operand) ++ ": " ++ errno.text)
  noteStatus 1

/-! ## §2 Making and removing -/

/-- Makes directories, with the option for that also those above them. -/
def mkdir (args : List String) : Tool Unit := do
  let parsed ← parse { bare := "pv", withArgument := "m", long := [("parents", 'p')] } args
  if parsed.operands.isEmpty then refuse "missing operand"
  for operand in parsed.operands do
    let failure ← change fun pid k =>
      let origin := originOf k pid operand
      if parsed.has 'p' then
        match k.files.makeDirectories origin (stepsTo operand) with
        | some (files, _) => .ok files
        | none =>
          match k.stat pid operand with
          | .ok _ => .error .fileExists
          | .error _ => .error .notDirectory
      else match k.files.walk .find FileSystem.linkLimit origin (stepsTo operand) with
        | .ok (.free location) => .ok (k.files.put location .directory)
        | .ok (.taken _ _) => .error .fileExists
        | .error errno => .error errno
    match failure with
    | some errno => tell "create directory" operand errno
    | none => pure ()

/-- Removes files, and directories with all below them if asked to. -/
def rm (args : List String) : Tool Unit := do
  let parsed ← parse { bare := "fiIrRdv", long := [("force", 'f'), ("recursive", 'r')] } args
  let isDeep := parsed.has 'r' || parsed.has 'R'
  if parsed.operands.isEmpty && !parsed.has 'f' then refuse "missing operand"
  for operand in parsed.operands do
    let failure ← change fun pid k =>
      match locationOf? k pid operand with
      | none => .error .noEntry
      | some location =>
        match k.files.node? location with
        | none => .error .noEntry
        | some .directory => if isDeep then .ok (k.files.erase location) else .error .isDirectory
        | some _ => .ok (k.files.erase location)
    match failure with
    | some errno => if !(errno = .noEntry && parsed.has 'f') then tell "remove" operand errno
    | none => pure ()

/-- Makes files that are not there, and renews the time of the others. -/
def touch (args : List String) : Tool Unit := do
  let parsed ← parse { bare := "acm", withArgument := "dtr" } args
  if parsed.operands.isEmpty then refuse "missing file operand"
  for operand in parsed.operands do
    let failure ← change fun pid k =>
      match Kernel.resolve k.files (k.hereOf pid) operand .make with
      | .ok (.free location) =>
        .ok (if parsed.has 'c' then k.files
          else k.files.put location (.file (k.newFile pid)))
      | .ok (.taken location (.file file)) =>
        .ok (k.files.put location (.file { file with stamp := k.files.now }))
      | .ok _ => .ok k.files
      | .error errno => .error errno
    match failure with
    | some errno => tell "touch" operand errno
    | none => pure ()

/-! ## §3 Copying and moving -/

/-- The last part of a path. -/
def lastPart (path : String) : String :=
  let trimmed := (path.toList.reverse.dropWhile (· = '/')).takeWhile (· ≠ '/')
  String.ofList trimmed.reverse

/-- Copies or moves one file onto a path or into a directory. -/
def transfer (moves : Bool) (source target : String) : Tool Unit := do
  let missing (errno : Errno) : Tool Unit := tell "stat" source errno
  match ← task (Task.stat source) with
  | .error errno => missing errno
  | .ok (_, .file file) =>
    let isInto := match ← task (Task.stat target) with
      | .ok (_, .directory) => true
      | _ => false
    let goal := if isInto then target ++ "/" ++ lastPart source else target
    let failure ← change fun pid k =>
      match Kernel.resolve k.files (k.hereOf pid) goal .make with
      | .ok (.free location) | .ok (.taken location (.file _)) =>
        let moved := match moves, k.files.node? location with
          | true, _ => file
          | false, some (.file old) => { old with data := file.data, stamp := k.files.now }
          | false, _ =>
            { file with rights := file.rights &&& (0o777 ^^^ k.maskOf pid), stamp := k.files.now }
        let files := k.files.put location (.file moved)
        .ok (match moves, locationOf? k pid source with
          | true, some old => if old = location then files else files.erase old
          | _, _ => files)
      | .ok _ => .error .isDirectory
      | .error errno => .error errno
    match failure with
    | some errno => tell "create regular file" goal errno
    | none => pure ()
  | .ok _ =>
    grumble ("-r not specified; omitting directory " ++ (← quotedName source))
    noteStatus 1

/-- Copies or moves files: the last operand is where to. -/
def transferAll (moves : Bool) (args : List String) : Tool Unit := do
  let parsed ← parse { bare := "finpruvaRT" } args
  match parsed.operands.getLast?, parsed.operands.dropLast with
  | none, _ => refuse "missing file operand"
  | some only, [] => refuse ("missing destination file operand after " ++ (← quotedName only))
  | some target, sources => for source in sources do transfer moves source target

/-! ## §4 Rights -/

/-- Changes the rights of files. -/
def chmod (args : List String) : Tool Unit := do
  match args with
  | [] => refuse "missing operand"
  | [mode] => refuse ("missing operand after " ++ (← shownArgument mode))
  | mode :: operands =>
    let mask ← task (Task.view fun pid k => k.maskOf pid)
    if (Rights.change? mask false 0 mode).isNone then
      refuse ("invalid mode: " ++ (← shownArgument mode))
    for operand in operands do
      let failure ← change fun pid k =>
        match k.stat pid operand with
        | .ok (location, .file file) =>
          let rights := (Rights.change? mask false file.rights mode).getD file.rights
          .ok (k.files.put location (.file { file with rights }))
        | .ok _ => .ok k.files
        | .error errno => .error errno
      match failure with
      | some errno => tell "access" operand errno
      | none => pure ()

end Exemplar.Utility.Files
