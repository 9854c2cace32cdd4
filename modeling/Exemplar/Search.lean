/-
Exemplar.Search — which file a program's name stands for.

A name of more than one component is a path and stands for itself. Any other name is looked for in
the directories of the search path, in order: the first regular file that may be executed is it.
The directory that paths are read from may have any name, so the path that is found is bytes.
-/
import Exemplar.FileSystem.Access

namespace Exemplar

/-- The names from the root to a location, each behind a slash. -/
def Location.spelled (location : Location) : Bytes :=
  location.reverse.flatMap fun name => Path.slash :: name.bytes

/-- The path that leads from the root to a location. -/
def Location.path (location : Location) : Bytes :=
  if location = [] then [Path.slash] else location.spelled

namespace Search

/-- How many components a path has: its names, with a root or a leading `.` as one more. -/
def componentCount (path : Path) : Nat :=
  let parts := Text.split '/' path.text
  let start := if path.isAbsolute || parts.head? = some "." then 1 else 0
  start + (parts.filter fun part => part ≠ "" && part ≠ ".").length

/-- The path of `part` below the directory at `here`. -/
def below (here : Location) (part : Path) : Bytes :=
  if part.isAbsolute then Utf8.encode part.text
  else here.spelled ++ Path.slash :: Utf8.encode part.text

/-- The files that a program's name may stand for, the first choice first. Without a search path
only a name of more than one component has any. -/
def candidates (here : Location) (searchPath : Option String) (program : String) : List Bytes :=
  if 1 < componentCount ⟨program⟩ then [below here ⟨program⟩]
  else match searchPath with
    | none => []
    | some dirs => (Text.split ':' dirs).map fun dir => Utf8.encode (Path.mk dir / program).text

/-- Whether a path leads to a regular file that may be executed. -/
def isProgram (fs : FileSystem) (here : Location) (path : Bytes) : Bool :=
  match fs.resolveBytes here path with
  | .ok (.taken _ (.file file)) => file.executable
  | _ => false

/-- The file that a program's name stands for, as the search path spells it. -/
def find? (fs : FileSystem) (here : Location) (searchPath : Option String) (program : String) :
    Option Bytes :=
  (candidates here searchPath program).find? (isProgram fs here)

end Search

end Exemplar
