/-
Exemplar.FileSystem.Access — reading, writing and listing by path.
-/
import Exemplar.FileSystem.Resolve

namespace Exemplar.FileSystem

/-- The regular file at a path, links followed. -/
def file? (fs : FileSystem) (here : Location) (path : Path) : Option File :=
  match fs.stat here path with
  | .ok (.file file) => some file
  | _ => none

/-- Whether a path leads to a directory, links followed. -/
def isDirectory (fs : FileSystem) (here : Location) (path : Path) : Bool :=
  match fs.stat here path with
  | .ok .directory => true
  | _ => false

/-- The content of the file at a path. -/
def read (fs : FileSystem) (here : Location) (path : Path) : Except Cause Bytes :=
  match fs.stat here path with
  | .ok (.file file) => .ok file.data
  | .ok _ => .error (.system .isDirectory)
  | .error cause => .error cause

/-- The text in the file at a path. -/
def readText (fs : FileSystem) (here : Location) (path : Path) : Except Cause String :=
  match fs.read here path with
  | .ok data =>
    match Utf8.decode? data with
    | some text => .ok text
    | none => .error .malformedText
  | .error cause => .error cause

/-- Writes a file at a path: its content is replaced if there is one, and else it is made. What a
link leads to is written, not the link. -/
def write (fs : FileSystem) (here : Location) (path : Path) (data : Bytes) :
    Except Cause FileSystem :=
  match fs.resolve here path .make with
  | .ok (.free location) => .ok (fs.put location (.file { data, stamp := fs.now }))
  | .ok (.taken location (.file old)) =>
    .ok (fs.put location (.file { old with data, stamp := fs.now }))
  | .ok (.taken _ _) => .error (.system .isDirectory)
  | .error cause => .error cause

/-- The names in the directory at a path. -/
def list (fs : FileSystem) (here : Location) (path : Path) : Except Cause (List Name) :=
  match fs.resolve here path with
  | .ok (.taken location .directory) => .ok (fs.children location)
  | .ok (.taken _ _) => .error (.system .notDirectory)
  | .ok (.free _) => .error (.system .noEntry)
  | .error cause => .error cause

end Exemplar.FileSystem
