/-
Exemplar.Registry — which examples there are, and which one an argument means.

  §1 discovery: the sub-directories of the examples root
  §2 selection: an argument is trimmed and lower-cased, then looked up
-/
import Exemplar.Failure
import Exemplar.FileSystem.Access
import Exemplar.Text.Blank
import Exemplar.Text.LowerCase

namespace Exemplar

/-- The names of the examples available. -/
abbrev Registry := List String

namespace Registry

/-! ## §1 Discovery -/

/-- The name of an entry below `root`, if it is text and leads to a directory, links followed. -/
def exampleName? (fs : FileSystem) (here : Location) (root : Path) (name : Name) :
    Option String :=
  match name.text? with
  | some text => if fs.isDirectory here (root / text) then some text else none
  | none => none

/-- The examples below a root, in the order in which it is listed. -/
def discover (fs : FileSystem) (here : Location) (root : Path) : Except Failure Registry :=
  match fs.list here root with
  | .ok names => .ok (names.filterMap (exampleName? fs here root))
  | .error cause => .error (.registry root cause)

/-! ## §2 Selection -/

/-- What an argument asks for. -/
inductive Selection where
  | all
  | one (name : String)
  deriving DecidableEq, Repr

/-- Whether a name is in the registry, letter for letter. -/
def has (registry : Registry) (name : String) : Bool :=
  registry.contains name

/-- The form in which an argument is looked up. -/
def normalForm (arg : String) : String :=
  Text.lower (Text.trim arg)

/-- What an argument selects. The word `all` selects everything, whatever the registry holds. -/
def select (registry : Registry) (arg : String) : Except Failure Selection :=
  let name := normalForm arg
  if name = "all" then .ok .all
  else if registry.has name then .ok (.one name)
  else .error (.unknownExample name registry)

end Registry

end Exemplar
