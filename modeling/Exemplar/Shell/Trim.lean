/-
Exemplar.Shell.Trim — the start or the end of a value that a pattern matches.

A value that is one text is seen as it is. One that holds several parameters, with an end after
each, lies on a strip: first the value, with a stroke before each character that is special in it,
then the pattern, and then, if the first parameter has strokes, that parameter without them. What
is looked for from the back is looked for on the strip, step by step from its last text towards the
front, while as many characters are counted off from the end of the value; a text on the strip goes
on up to the next end.

  §1 values of one text
  §2 the strip
  §3 what is matched
-/
import Exemplar.Shell.Fields
import Exemplar.Shell.Grammar

namespace Exemplar.Shell.Trim

/-! ## §1 Values of one text -/

/-- How many characters of the shortest (or longest) start of a text match. -/
def startOf? (pattern : List Glob) (longest : Bool) (text : List Char) : Option Nat :=
  let lengths := matchedLengths pattern text
  if longest then lengths.head? else lengths.getLast?

/-- How many characters stand before the shortest (or longest) end of a text that matches. -/
def beforeEnd? (pattern : List Glob) (longest : Bool) (text : List Char) : Option Nat :=
  let lengths := matchedLengths pattern.reverse text.reverse
  (if longest then lengths.head? else lengths.getLast?).map (text.length - ·)

/-! ## §2 The strip -/

/-- What ends a parameter. -/
def finish : Char := '\x00'

/-- Whether a character of a value is special. -/
def isSpecial (quoted : Bool) (c : Char) : Bool :=
  (quoted && "!*?[=~:/-]\\".toList.contains c) || isSign c

/-- The characters of a pattern as its cells were written, with one sign for what makes the next
character stand for itself. -/
def written (sign : Char) (cells : List Cell) : List Char :=
  cells.flatMap fun
    | .char c quoted => if quoted && isSpecial true c then [sign, c] else [c]
    | .mark => [markSign]

/-- Everything that can be seen from a value with several parameters. -/
structure Strip where
  chars : Array Char
  /-- Where the pattern starts, and where its end is. -/
  patternStart : Nat
  patternStop : Nat
  /-- Where the text starts that is looked at last, and where the end after it is. -/
  textStart : Nat
  textStop : Nat

/-- The strip of a value and of the cells of a pattern. The pattern has lost its quotation marks,
and as many of the last characters with which it was written are still there after it. -/
def Strip.ofValue (quoted : Bool) (cells : List Cell) (value : List Char) : Strip :=
  let stroked := value.flatMap fun c => if isSpecial quoted c then [stroke, c] else [c]
  let text := value.takeWhile (· ≠ finish)
  let pattern := (written '\\' cells).filter (· ≠ markSign)
  let marks := cells.countP (· = .mark)
  let left := (written stroke cells ++ [finish]).reverse.take marks
  let patternStart := stroked.length + 1
  let patternStop := patternStart + pattern.length
  let before := stroked ++ finish :: pattern ++ finish :: left.reverse
  if text.any (isSpecial quoted) then
    { chars := (before ++ text ++ [finish]).toArray, patternStart, patternStop
      textStart := before.length, textStop := before.length + text.length }
  else
    { chars := before.toArray, patternStart, patternStop
      textStart := 0, textStop := stroked.length }

namespace Strip

/-- The characters from a place up to the next end. -/
def textFrom (strip : Strip) (place : Nat) : List Char :=
  let rec go : (fuel : Nat) → Nat → List Char
    | 0, _ => []
    | fuel + 1, i =>
      match strip.chars[i]? with
      | some c => if c = finish then [] else c :: go fuel (i + 1)
      | none => []
  go (strip.chars.size - place) place

/-- Whether a pattern matches the text from a place on. -/
def matchesFrom (strip : Strip) (pattern : List Glob) (place : Nat) : Bool :=
  globMatch pattern (strip.textFrom place)

/-- Whether a pattern matches the last text where everything ends at a place: the text if the place
is in it, and the pattern if it is in that. -/
def matchesUpTo (strip : Strip) (pattern : List Glob) (place : Nat) : Bool :=
  let text := strip.textFrom strip.textStart
  let text := if strip.textStart ≤ place then text.take (place - strip.textStart) else text
  let isIn := strip.patternStart ≤ place && place < strip.patternStop
  let pattern := if isIn then
      let chars := (strip.textFrom strip.patternStart).take (place - strip.patternStart)
      glob (markedOf chars)
    else pattern
  globMatch pattern text

end Strip

/-! ## §3 What is matched -/

/-- How many characters of a value are left before the place that is found from the back, where
`found` tells about places of the strip. -/
def fromBack? (strip : Strip) (value : List Char) (found : Nat → Bool) : Option Nat :=
  (List.range (value.length + 1)).findSome? fun steps =>
    if found (strip.textStop - steps) then some (value.length - steps) else none

/-- How many characters of the shortest (or longest) start of a value match the pattern of some
cells. Of several parameters the shortest start is one of the first. -/
def start? (quoted longest : Bool) (cells : List Cell) (value : List Char) : Option Nat :=
  let pattern := glob (patternChars cells)
  if !value.contains finish then startOf? pattern longest value
  else if longest then
    let strip := Strip.ofValue quoted cells value
    fromBack? strip value (strip.matchesUpTo pattern)
  else startOf? pattern longest (value.takeWhile (· ≠ finish))

/-- How many characters stand before the shortest (or longest) end of a value that matches the
pattern of some cells. Of several parameters the longest end is one of the first. -/
def end? (quoted longest : Bool) (cells : List Cell) (value : List Char) : Option Nat :=
  let pattern := glob (patternChars cells)
  if !value.contains finish then beforeEnd? pattern longest value
  else if longest then beforeEnd? pattern longest (value.takeWhile (· ≠ finish))
  else
    let strip := Strip.ofValue quoted cells value
    fromBack? strip value (strip.matchesFrom pattern)

end Exemplar.Shell.Trim
