/-
Exemplar.Command — a program with the arguments that always come first.

A command is given as one line. The line is cut at blanks and nowhere else: there is no quoting.
-/
import Exemplar.Text.Blank

namespace Exemplar

/-- A program and the arguments that stand before those of each call. -/
structure Command where
  program : String
  args : List String
  deriving DecidableEq, Repr

namespace Command

/-- The command that a line gives; a line of blanks gives none. -/
def parse? (line : String) : Option Command :=
  match Text.words line with
  | [] => none
  | program :: args => some ⟨program, args⟩

/-- The arguments of one call. -/
def argsWith (command : Command) (extra : List String) : List String :=
  command.args ++ extra

end Command

end Exemplar
