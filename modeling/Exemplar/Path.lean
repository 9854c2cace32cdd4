/-
Exemplar.Path — paths as they are written.

A path is its text: nothing is normalised, and two spellings of one place are two paths. `join` puts
a part below a path; a part that starts at the root replaces the path.

  §1 the type and joining
  §2 names that are one component
-/
namespace Exemplar

/-! ## §1 The type and joining -/

/-- A path, by its text. -/
structure Path where
  text : String
  deriving DecidableEq, Repr, Inhabited

namespace Path

/-- Joining on lists of characters: a separator goes between the two unless the left one is empty or
ends in one, and a right one that starts with a separator stands alone. -/
def joinChars (base part : List Char) : List Char :=
  if part.head? = some '/' then part
  else if base = [] ∨ base.getLast? = some '/' then base ++ part
  else base ++ '/' :: part

/-- The path of `part` below `path`. -/
def join (path : Path) (part : String) : Path :=
  ⟨String.ofList (joinChars path.text.toList part.toList)⟩

instance : HDiv Path String Path := ⟨join⟩

/-- Whether a path starts at the root. -/
def isAbsolute (path : Path) : Bool :=
  path.text.toList.head? = some '/'

/-! ## §2 Names that are one component -/

/-- A name that is one component of a path and no more: not empty, no separator, neither `.` nor
`..`. -/
def isComponent (name : String) : Bool :=
  name ≠ "" && !name.toList.contains '/' && name ≠ "." && name ≠ ".."

end Path

end Exemplar
