/-
Exemplar.FileSystem.Resolve — from a path to the place it names.

A path is walked step by step from a directory. Symbolic links on the way, the last one included,
are followed by walking their target; `..` goes up in the tree and not in the text. A path is a text
or, as the target of a link is, any bytes; a text leads where its bytes do. A walk ends at an entry
or at a free place in a directory that exists, or it fails:

  - a part that does not exist, with steps after it: `noEntry`;
  - a regular file with steps after it: `notDirectory`;
  - a part of more than 255 bytes, or a path of 4096 or more: `nameTooLong`;
  - more than 40 links: `linkLoop`;
  - a last part with a slash after it, where a file is to be made: `isDirectory`.

  §1 steps
  §2 places and walks
  §3 resolving paths
-/
import Exemplar.Cause
import Exemplar.Path
import Exemplar.Text.Split
import Exemplar.FileSystem.Basic

namespace Exemplar

/-! ## §1 Steps -/

/-- What one part of a path says, going from a directory. -/
inductive Step where
  /-- Stay in the directory: an empty part, next to a slash. -/
  | slash
  /-- Stay in the directory: `.`. -/
  | stay
  /-- Go to the directory above: `..`. -/
  | up
  /-- Go to the entry of this name. -/
  | into (name : Name)
  deriving DecidableEq, Repr

/-- The step that a part of a path stands for. -/
def Step.ofName : Name → Step
  | .text part =>
    if part = "" then .slash
    else if part = "." then .stay
    else if part = ".." then .up
    else .into (.text part)
  | .raw bytes => .into (.raw bytes)

/-- The steps of a path, one for each part. -/
def Path.steps (path : Path) : List Step :=
  (Text.split '/' path.text).map fun part => Step.ofName (.text part)

/-- The byte of a slash. -/
def Path.slash : UInt8 := 47

/-- The steps of a path that is given as bytes. -/
def Path.stepsOfBytes (path : Bytes) : List Step :=
  (Text.splitList slash path).map fun part => Step.ofName (Name.ofBytes part)

/-! ## §2 Places and walks -/

/-- What a walk is for. -/
inductive Aim where
  /-- To find what there is. -/
  | find
  /-- To make a file, if there is none. -/
  | make
  deriving DecidableEq, Repr

/-- Where a walk ends. -/
inductive Place where
  /-- An entry, which is no link. -/
  | taken (location : Location) (node : Node)
  /-- A location with nothing at it, in a directory. -/
  | free (location : Location)
  deriving DecidableEq, Repr

namespace FileSystem

/-- The longest name of an entry, in bytes. -/
def nameLimit : Nat := 255

/-- The shortest path that is refused for its length, in bytes. -/
def pathLimit : Nat := 4096

/-- The most links that one path may lead through. -/
def linkLimit : Nat := 40

/-- Where a path starts: at the root, or at the directory it is read from. -/
def origin (here : Location) (path : Path) : Location :=
  if path.isAbsolute then [] else here

/-- Where a path starts that is given as bytes. -/
def originOfBytes (here : Location) (path : Bytes) : Location :=
  if path.head? = some Path.slash then [] else here

/-- Whether the last part of a path is over and slashes are left of it. -/
def endsInSlash (rest : List Step) : Bool :=
  !rest.isEmpty && rest.all (· = .slash)

/-- Walks from the directory at `here`; `follow` goes on from a link. -/
def walkWith (fs : FileSystem) (aim : Aim) (follow : Location → List Step → Except Errno Place)
    (here : Location) : List Step → Except Errno Place
  | [] => .ok (.taken here .directory)
  | .slash :: rest => fs.walkWith aim follow here rest
  | .stay :: rest => fs.walkWith aim follow here rest
  | .up :: rest => fs.walkWith aim follow here.tail rest
  | .into name :: rest =>
    if aim = .make && endsInSlash rest then .error .isDirectory
    else if nameLimit < name.size then .error .nameTooLong
    else
      let location := name :: here
      match fs.node? location with
      | none => if rest.isEmpty then .ok (.free location) else .error .noEntry
      | some .directory => fs.walkWith aim follow location rest
      | some (.file file) =>
        if rest.isEmpty then .ok (.taken location (.file file)) else .error .notDirectory
      | some (.link target) => follow (originOfBytes here target) (Path.stepsOfBytes target ++ rest)

/-- Walks through at most `links` links. -/
def walk (fs : FileSystem) (aim : Aim) :
    (links : Nat) → Location → List Step → Except Errno Place
  | 0 => fs.walkWith aim fun _ _ => .error .linkLoop
  | links + 1 => fs.walkWith aim (fs.walk aim links)

/-! ## §3 Resolving paths -/

/-- The place that a path names, read from the directory at `here`. -/
def resolve (fs : FileSystem) (here : Location) (path : Path) (aim : Aim := .find) :
    Except Cause Place :=
  if path.text.toList.contains '\x00' then .error .nulInPath
  else if path.text = "" then .error (.system .noEntry)
  else if pathLimit ≤ path.text.utf8ByteSize then .error (.system .nameTooLong)
  else match fs.walk aim linkLimit (origin here path) path.steps with
    | .ok place => .ok place
    | .error errno => .error (.system errno)

/-- The place that a path names which is given as bytes. -/
def resolveBytes (fs : FileSystem) (here : Location) (path : Bytes) (aim : Aim := .find) :
    Except Cause Place :=
  if path.contains 0 then .error .nulInPath
  else if path = [] then .error (.system .noEntry)
  else if pathLimit ≤ path.length then .error (.system .nameTooLong)
  else match fs.walk aim linkLimit (originOfBytes here path) (Path.stepsOfBytes path) with
    | .ok place => .ok place
    | .error errno => .error (.system errno)

/-- What stands at a path, links followed. -/
def stat (fs : FileSystem) (here : Location) (path : Path) : Except Cause Node :=
  match fs.resolve here path with
  | .ok (.taken _ node) => .ok node
  | .ok (.free _) => .error (.system .noEntry)
  | .error cause => .error cause

end FileSystem

end Exemplar
