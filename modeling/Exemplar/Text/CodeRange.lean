/-
Exemplar.Text.CodeRange — sets of characters given as ranges of code points.
-/

namespace Exemplar.Text

/-- A set of code points: each pair is a range, both ends included. -/
abbrev CodeTable := List (Nat × Nat)

/-- Whether one of the table's ranges holds the character. -/
def CodeTable.holds (table : CodeTable) (c : Char) : Bool :=
  table.any fun range => range.1 ≤ c.toNat && c.toNat ≤ range.2

end Exemplar.Text
