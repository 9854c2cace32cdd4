/-
Exemplar.Text.Blank — white space, trimming and words.

"Blank" is the Unicode property White_Space, 25 code points. Two operations rest on it: `trim` takes
the blanks off both ends of a text, and `words` cuts a text into its maximal runs of other
characters.

  §1 the blank characters
  §2 trimming
  §3 words
-/
import Exemplar.Text.CodeRange

namespace Exemplar.Text

/-! ## §1 The blank characters -/

/-- Code points with the Unicode property White_Space. -/
def blankTable : CodeTable :=
  [(0x9, 0xD), (0x20, 0x20), (0x85, 0x85), (0xA0, 0xA0), (0x1680, 0x1680), (0x2000, 0x200A),
   (0x2028, 0x2029), (0x202F, 0x202F), (0x205F, 0x205F), (0x3000, 0x3000)]

/-- Whether a character is white space. -/
def isBlank (c : Char) : Bool :=
  blankTable.holds c

/-- Whether a text holds blanks only; the empty text does. -/
def allBlank (s : String) : Bool :=
  s.toList.all isBlank

/-! ## §2 Trimming -/

/-- The list without the blanks at its end. -/
def dropBlankEnd (cs : List Char) : List Char :=
  (cs.reverse.dropWhile isBlank).reverse

/-- The list without the blanks at either end. -/
def trimChars (cs : List Char) : List Char :=
  dropBlankEnd (cs.dropWhile isBlank)

/-- The text without the blanks at either end. -/
def trim (s : String) : String :=
  String.ofList (trimChars s.toList)

/-! ## §3 Words -/

/-- The words of a list of characters, when `begun` (last character first) is the part of a word
that stands before it. -/
def wordsAfter (begun : List Char) : List Char → List (List Char)
  | [] => if begun.isEmpty then [] else [begun.reverse]
  | c :: cs =>
    if isBlank c then
      if begun.isEmpty then wordsAfter [] cs else begun.reverse :: wordsAfter [] cs
    else wordsAfter (c :: begun) cs

/-- The maximal runs of characters that are not blank, in order. -/
def words (s : String) : List String :=
  (wordsAfter [] s.toList).map String.ofList

end Exemplar.Text
