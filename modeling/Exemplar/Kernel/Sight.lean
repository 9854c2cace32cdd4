/-
Exemplar.Kernel.Sight — what a process sees at a path.

Questions about what stands at a path have one letter, as in conditions: whether there is a file
(`f`), a directory (`d`), anything (`e`), whether it can be executed (`x`), and so on.

  §1 sights
  §2 questions
  §3 times and places
-/
import Exemplar.FileSystem.Rights
import Exemplar.Kernel.Call

namespace Exemplar.Kernel

/-! ## §1 Sights -/

/-- What can be seen at a path. -/
inductive Sight where
  | file (file : File)
  | directory
  | link
  | device
  | pipe

/-- What a process sees at a path, and where that is; a link at its end stands for itself if
`stays`. The entries for descriptors show what these lead to. -/
def sight? (k : Kernel) (pid : Nat) (path : String) (stays : Bool) : Option (Location × Sight) :=
  match if stays then k.lstat pid path else k.stat pid path with
  | .error _ => none
  | .ok (location, .directory) => some (location, .directory)
  | .ok (location, .link _) => some (location, .link)
  | .ok (location, .file file) =>
    match device? location with
    | none => some (location, .file file)
    | some (.descriptor n) =>
      match (k.opening? pid n).map fun e => e.2.target with
      | none => none
      | some (Target.file place) =>
        match k.files.node? place with
        | some (.file file) => some (place, .file file)
        | _ => none
      | some (.directory place) => some (place, .directory)
      | some (.outlet _) | some (.inlet _) => some (location, .pipe)
      | some _ => some (location, .device)
    | some _ => some (location, .device)

/-! ## §2 Questions -/

/-- Whether rights have the bit that a letter asks for, one of the three upper ones. -/
def hasUpperBit (letter : Char) (rights : Nat) : Bool :=
  ([('u', 11), ('g', 10), ('k', 9)].lookup letter).any rights.testBit

/-- The answer to a question about what stands at a path. Everything may be read and written, and
has the owner and the group that a process has. -/
def answers (k : Kernel) (pid : Nat) (letter : Char) (path : String) : Bool :=
  match k.sight? pid path (letter = 'h' || letter = 'L'), letter with
  | none, _ => false
  | some (_, .file _), 'f' => true
  | some (_, .file file), 's' => !file.data.isEmpty
  | some (_, .file file), 'x' => file.executable
  | some (_, .directory), 'd' => true
  | some (_, .directory), 's' => true
  | some (_, .directory), 'x' => true
  | some (_, .link), 'h' | some (_, .link), 'L' => true
  | some (_, .device), 'c' => true
  | some (_, .pipe), 'p' => true
  | _, 'e' | _, 'r' | _, 'w' | _, 'O' | _, 'G' => true
  | some (_, .file file), letter => hasUpperBit letter file.rights
  | some (location, .directory), letter =>
    hasUpperBit letter (Rights.ofNode location .directory)
  | _, _ => false

/-! ## §3 Times and places -/

/-- When what stands at a path was written, if anything stands there. -/
def stampAt? (k : Kernel) (pid : Nat) (path : String) : Option Stamp :=
  (k.sight? pid path false).map fun found =>
    match found.2 with
    | .file file => file.stamp
    | _ => .written 0

/-- Whether two paths lead to one place. -/
def leadTogether (k : Kernel) (pid : Nat) (a b : String) : Bool :=
  match k.sight? pid a false, k.sight? pid b false with
  | some (x, _), some (y, _) => x = y
  | _, _ => false

end Exemplar.Kernel

namespace Exemplar

/-- Whether one time is before another. -/
def Stamp.isBefore : Stamp → Stamp → Bool
  | .old, .old => false
  | .old, _ => true
  | .written a, .written b => a < b
  | .written _, .new => true
  | _, _ => false

end Exemplar
