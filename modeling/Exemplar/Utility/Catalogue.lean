/-
Exemplar.Utility.Catalogue — the programs that are installed.

Some of them start others: these are given the catalogue again, with one start less to go.

  §1 programs by themselves
  §2 all programs
-/
import Exemplar.Shell.Start
import Exemplar.Utility.Cat
import Exemplar.Utility.Contents
import Exemplar.Utility.Count
import Exemplar.Utility.Environment
import Exemplar.Utility.Files
import Exemplar.Utility.Format
import Exemplar.Utility.Head
import Exemplar.Utility.Lines
import Exemplar.Utility.Sleep
import Exemplar.Utility.Test
import Exemplar.Utility.Translate
import Exemplar.Utility.Verdict

namespace Exemplar.Utility

/-! ## §1 Programs by themselves -/

/-- The programs that start no others, by their names. -/
def plain : List (String × (List String → Tool Unit)) :=
  [("[", Test.run true), ("basename", Lines.basename), ("cat", Cat.run), ("chmod", Files.chmod),
   ("cp", Files.transferAll false), ("dirname", Lines.dirname), ("echo", Format.echo),
   ("false", Verdict.run .failing 1), ("head", Head.run), ("ls", Contents.run),
   ("mkdir", Files.mkdir), ("mv", Files.transferAll true), ("printf", Format.run),
   ("pwd", Lines.pwd), ("rm", Files.rm), ("seq", Lines.seq), ("sleep", Sleep.run),
   ("sort", Lines.sort), ("tail", Lines.tail), ("tee", Lines.tee), ("test", Test.run false),
   ("touch", Files.touch), ("tr", Translate.run), ("true", Verdict.run .succeeding 0),
   ("wc", Count.run)]

/-! ## §2 All programs -/

/-- The names of all programs. -/
def names : List String := ["dash", "env"] ++ plain.map (·.1)

/-- Other names of programs, before those that they have in the catalogue. -/
def otherNames : List (String × String) := [("sh", "dash")]

/-- The library that the program of a name needs first. -/
def libraryOf (name : String) : String :=
  if ["cp", "ls", "mkdir", "mv"].contains name then "libselinux.so.1" else "libc.so.6"

/-- The program of a name, which may start others, these again others, and so on `starts` times. -/
def program? : (starts : Nat) → String → Option Executable
  | 0, _ => none
  | starts + 1, name =>
    let program? : Option Executable :=
      if name = "dash" then some (Shell.shell (program? starts))
      else if name = "env" then some (program (Environment.run (program? starts)))
      else (plain.lookup name).map program
    program?.map (linked (libraryOf name))

end Exemplar.Utility
