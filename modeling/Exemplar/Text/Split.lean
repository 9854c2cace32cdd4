/-
Exemplar.Text.Split — cutting a text at a separator, and joining it again.

Every separator cuts, so two in a row have an empty part between them and a text without any is one
part. Bytes are cut as characters are.
-/

namespace Exemplar.Text

/-- The parts between the separators, empty ones included; never an empty list. -/
def splitList {α : Type} [DecidableEq α] (separator : α) : List α → List (List α)
  | [] => [[]]
  | a :: rest =>
    if a = separator then [] :: splitList separator rest
    else match splitList separator rest with
      | [] => [[a]]
      | part :: parts => (a :: part) :: parts

/-- The parts of a text between the separators, empty ones included. -/
def split (separator : Char) (s : String) : List String :=
  (splitList separator s.toList).map String.ofList

/-- The texts one after the other, with `between` in each gap. -/
def joinWith (between : String) : List String → String
  | [] => ""
  | [s] => s
  | s :: t :: rest => s ++ between ++ joinWith between (t :: rest)

/-- Whether `part` stands in `whole` at its very start. -/
def startsWith (part whole : List Char) : Bool :=
  part.isPrefixOf whole

/-- Whether `part` stands somewhere in `whole`, as an unbroken run. -/
def occursIn (part : List Char) : List Char → Bool
  | [] => part.isEmpty
  | c :: cs => startsWith part (c :: cs) || occursIn part cs

end Exemplar.Text
