/-
Exemplar.Comparison — the output of a script beside the output expected.

Blanks at either end of the two texts do not count. Without an expected text nothing is compared.
-/
import Exemplar.Text.Blank

namespace Exemplar

/-- What a comparison finds. -/
inductive Verdict where
  | matched
  | mismatched
  /-- There was nothing to compare with. -/
  | skipped
  deriving DecidableEq, Repr

/-- A verdict with the two texts it is about, as they were. -/
structure Comparison where
  verdict : Verdict
  expected : Option String
  actual : String
  deriving DecidableEq, Repr

/-- Compares an output with the one expected, if there is one. -/
def compare (actual : String) (expected : Option String) : Comparison where
  verdict :=
    match expected with
    | none => .skipped
    | some text => if Text.trim text = Text.trim actual then .matched else .mismatched
  expected
  actual

end Exemplar
