/-
Exemplar.Example — one example project and its files.

All paths of an example follow from the settings and its name. Two fixtures may stand in its
directory: the input of the script and the output it should have. A fixture that does not exist is
no failure; one that exists and cannot be read is.
-/
import Exemplar.Failure
import Exemplar.FileSystem.Access
import Exemplar.Settings

namespace Exemplar

/-- An example project, with the paths that the settings give it. -/
structure Example where
  name : String
  /-- The project's directory. -/
  directory : Path
  /-- The file that the build leaves and the compiler reads. -/
  artifact : Path
  deriving DecidableEq, Repr

namespace Example

/-- The example of a name. -/
def ofName (settings : Settings) (name : String) : Example :=
  let directory := settings.root / name
  { name, directory
    artifact := directory / "bin" / settings.profile / settings.framework / (name ++ ".dll") }

/-- The script that the compiler's output is written to. -/
def script (ex : Example) : Path :=
  ex.directory / (ex.name ++ ".lua")

/-- The fixture that the script reads from standard input. -/
def inputFixture (ex : Example) : Path :=
  ex.directory / "input.txt"

/-- The fixture that the script's output is compared with. -/
def expectedFixture (ex : Example) : Path :=
  ex.directory / "output.txt"

end Example

namespace FileSystem

/-- The text of a file that may be absent. -/
def readOptional (fs : FileSystem) (here : Location) (path : Path) :
    Except Failure (Option String) :=
  match fs.readText here path with
  | .ok text => .ok (some text)
  | .error cause =>
    if cause = .system .noEntry then .ok none else .error (.access path cause)

/-- The input of an example's script, empty when there is no fixture. -/
def input (fs : FileSystem) (here : Location) (ex : Example) : Except Failure String :=
  match fs.readOptional here ex.inputFixture with
  | .ok text => .ok (text.getD "")
  | .error failure => .error failure

/-- The output expected of an example's script, if there is a fixture. -/
def expected (fs : FileSystem) (here : Location) (ex : Example) :
    Except Failure (Option String) :=
  fs.readOptional here ex.expectedFixture

end FileSystem

end Exemplar
