/-
Exemplar.Kernel.Load — from the name of a program to what is loaded for it.
-/
import Exemplar.Image
import Exemplar.Kernel.Call

namespace Exemplar

/-- The paths that a name may have in the directories of a search path, in order. -/
def pathsAlong (searchPath name : String) : List String :=
  (Text.split ':' searchPath).map fun dir => if dir = "" then name else dir ++ "/" ++ name

/-- Whether an error only says that there is no program at a path. -/
def isMissing (errno : Errno) : Bool := errno = .noEntry || errno = .notDirectory

/-- The variables that a program sees, with one character for each byte. -/
abbrev Environment := List (String × String)

/-- What is loaded when a path is executed with arguments: the name of an image, and the arguments
that it gets, with `name` for its own. -/
def loadProgram (k : Kernel) (pid : Nat) (environment : Environment) (path name : String)
    (args : List String) : Except Errno (String × List String) :=
  let burden : Image.Burden := {
    arguments := name.length :: args.map String.length
    environment := environment.map fun e => Image.Burden.sizeOf e.1.length e.2.length
    stack := ((k.limitsOf pid).of .stack).soft }
  match Image.load k.files (k.hereOf pid) (Octets.text path) [Octets.text name] burden with
  | .ok (image, argv) => .ok (image, argv.map Octets.ofText ++ args)
  | .error (.system errno) => .error errno
  | .error _ => .error .noEntry

/-- What is loaded for a file that may be executed but does not say how: the image of the shell, for
which it is a script. -/
def loadScript (path : String) (args : List String) : String × List String :=
  ("dash", "/bin/sh" :: path :: args)

end Exemplar
