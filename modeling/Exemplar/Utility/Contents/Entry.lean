/-
Exemplar.Utility.Contents.Entry — what is listed.

An entry has a name and stands for what is found there: the file, directory or link itself, or what
a link leads to.

  §1 entries
  §2 sizes and times
  §3 finding entries
-/
import Exemplar.FileSystem.Rights
import Exemplar.Shell.Pattern
import Exemplar.Utility.Contents.Settings

namespace Exemplar.Utility.Contents

/-! ## §1 Entries -/

/-- Something that is listed: its name and what stands there. -/
structure Entry where
  name : String
  location : Location
  node : Node
  /-- Whether it could be looked at. -/
  isKnown : Bool := true
  /-- What a link leads to, and where that stands. -/
  goal : Option (Location × Node) := none
  /-- How many directories are right below it. -/
  below : Nat := 0

namespace Entry

/-- Whether an entry is a directory. -/
def isDirectory (e : Entry) : Bool := e.node = .directory

/-- Whether an entry is a device. -/
def isDevice (e : Entry) : Bool := (Kernel.device? e.location).isSome

/-- Whether an entry is a directory, or a link to one. -/
def leadsToDirectory (e : Entry) : Bool := e.isDirectory || e.goal.any (·.2 = .directory)

/-! ## §2 Sizes and times -/

/-- How large what stands at an entry is. -/
def size (e : Entry) : Nat :=
  match e.node with
  | .file file => file.data.length
  | .link target => target.length
  | .directory => 4096

/-- How many bytes room is given out in at a time. -/
def pageSize : Nat := 4096

/-- How much room an entry takes, in bytes. -/
def room (e : Entry) : Nat :=
  match e.node with
  | .link _ => 0
  | _ => (e.size + pageSize - 1) / pageSize * pageSize

/-- When a file was written that is older than a session, and when one that is still to come, in
seconds. -/
def oldTime : Nat := 1000000000

@[inherit_doc oldTime]
def newTime : Nat := 4102444800

/-- When a session starts, in seconds. -/
def sessionTime : Nat := 1750000000

/-- When what stands at an entry was written, in seconds, and then which of the times of the session
that was. -/
def time (e : Entry) : Nat × Nat :=
  match e.node with
  | .file file =>
    match file.stamp with
    | .old => (oldTime, 0)
    | .written time => (sessionTime, time)
    | .new => (newTime, 0)
  | _ => (sessionTime, 0)

/-- Who may do what with an entry, behind a letter for its kind. -/
def rightsText (e : Entry) : String :=
  let kind := match e.node with
    | .directory => "d"
    | .file _ => if e.isDevice then "c" else "-"
    | .link _ => "l"
  kind ++ if e.isKnown then Rights.text (Rights.ofNode e.location e.node) else "?????????"

end Entry

/-! ## §3 Finding entries -/

/-- An entry with what is known of it from its surroundings. -/
def completed (k : Kernel) (e : Entry) : Entry :=
  match e.node with
  | .directory =>
    let names := k.files.children e.location
    let isBelow (name : Name) : Bool := k.files.node? (name :: e.location) = some .directory
    { e with below := (names.filter isBelow).length }
  | .link target =>
    match Kernel.resolve k.files e.location.tail (Octets.ofBytes target) with
    | .ok (.taken location node) => { e with goal := some (location, node) }
    | _ => e
  | .file _ => e

/-- What stands at an operand. -/
def entryOf (s : Settings) (operand : String) : Tool (Except Errno Entry) :=
  task (Task.view fun pid k =>
    let entry (found : Location × Node) : Entry :=
      completed k { name := operand, location := found.1, node := found.2 }
    let unfollowed := (k.lstat pid operand).map entry
    match s.following, k.stat pid operand with
    | .none, _ => unfollowed
    | .directories, .ok (location, .directory) => .ok (entry (location, .directory))
    | .directories, .ok _ => unfollowed
    | .directories, .error errno =>
      if errno = .noEntry || errno = .linkLoop then unfollowed else .error errno
    | _, found => found.map entry)

/-- A text as characters: those that it writes, or its bytes if they are broken. -/
def charactersOf (set : Charset) (text : String) : List Char :=
  let gs := set.glyphs text
  if gs.all (·.char?.isSome) then gs.filterMap (·.char?) else text.toList

/-- Whether a name fits a pattern; a dot in front has to be there in both. -/
def fits (set : Charset) (name pattern : String) : Bool :=
  (name.front ≠ '.' || pattern.front = '.') &&
    Shell.globMatch (Shell.glob ((charactersOf set pattern).map (·, false))) (charactersOf set name)

/-- Whether a name is listed. -/
def Settings.lists (s : Settings) (name : String) : Bool :=
  let isShown := match s.hidden with
    | .all => true
    | .allButLinks => name ≠ "." && name ≠ ".."
    | .none => name.front ≠ '.' && !s.passedOver.any (fits s.charset name)
  isShown && !s.ignored.any (fits s.charset name)

/-- A path with one more name. -/
def joined (dir name : String) : String :=
  if dir.toList.getLast? = some '/' then dir ++ name else dir ++ "/" ++ name

/-- A name in a directory as it is told; the directory in which all paths start is left out. -/
def joinedShort (dir name : String) : String := if dir = "." then name else joined dir name

/-- The entry for what a link in a directory leads to; that it cannot be followed is told. -/
def followed (dir e : Entry) : Tool Entry := do
  let found ← task (Task.view fun _ k =>
    match Kernel.resolve k.files dir.location e.name with
    | .ok (.taken location node) => Except.ok (completed k { e with location, node, goal := none })
    | .ok (.free _) => Except.error Errno.noEntry
    | .error errno => Except.error errno)
  match found with
  | .ok e => return e
  | .error errno =>
    grumble ("cannot access " ++ (← quotedName (joinedShort dir.name e.name)) ++ ": " ++ errno.text)
    if (← get).status = 0 then noteStatus 1
    return { e with isKnown := false }

/-- Whether links in directories are followed. -/
def Settings.followsAll (s : Settings) : Bool :=
  let needsKind := s.marks ≠ .none || s.recursive || s.directoriesFirst || s.palette?.isSome
  s.following = .all && (s.looksUp || needsKind)

/-- The entries of a directory. -/
def entriesIn (s : Settings) (dir : Entry) : Tool (List Entry) := do
  let entries ← task (Task.view fun _ k =>
    let names := (k.files.children dir.location).mergeSort Name.le
    let own := names.filterMap fun name =>
      (k.files.node? (name :: dir.location)).map fun node =>
        (⟨Kernel.octets name, name :: dir.location, node, true, none, 0⟩ : Entry)
    let above : List Entry :=
      [⟨".", dir.location, .directory, true, none, 0⟩,
       ⟨"..", dir.location.tail, .directory, true, none, 0⟩]
    ((above ++ own).filter fun e => s.lists e.name).map (completed k))
  entries.mapM fun e =>
    match e.node with
    | .link _ => if s.followsAll then followed dir e else pure e
    | _ => pure e

end Exemplar.Utility.Contents
