/-
Exemplar.Text.LowerCase — the full Unicode lower-case form of a text.

Most characters are sent to one character by a table. Two are not: `İ` becomes `i` and a combining
dot, and `Σ` becomes `ς` where a word ends and `σ` elsewhere.

  §1 one character
  §2 the end of a word
  §3 texts
-/
import Exemplar.Text.CaseRun
import Exemplar.Text.Cased
import Exemplar.Text.CaseIgnorable

namespace Exemplar.Text

/-! ## §1 One character -/

/-- The code point that a code point is sent to, itself when it has no other lower-case form. -/
def lowerCode (code : Nat) : Nat :=
  match lowerRuns.find? (·.holds code) with
  | some run => run.send code
  | none => code

/-- The lower-case form of a character by itself. -/
def lowerChar (c : Char) : List Char :=
  if c = 'İ' then ['i', '\u0307'] else [Char.ofNat (lowerCode c.toNat)]

/-! ## §2 The end of a word -/

/-- Whether the first character that casing does not look through is a letter with case. -/
def meetsCased (cs : List Char) : Bool :=
  match cs.dropWhile caseIgnorableTable.holds with
  | [] => false
  | c :: _ => casedTable.holds c

/-- Whether a word ends at a place: going back from it (`before` has the nearest character first) a
cased letter is met, and going on from it none is. -/
def endsWord (before after : List Char) : Bool :=
  meetsCased before && !meetsCased after

/-! ## §3 Texts -/

/-- The lower-case form of a list of characters that stands after `before` (nearest character
first). -/
def lowerAfter (before : List Char) : List Char → List Char
  | [] => []
  | c :: cs =>
    let form := if c = 'Σ' then [if endsWord before cs then 'ς' else 'σ'] else lowerChar c
    form ++ lowerAfter (c :: before) cs

/-- The lower-case form of a text. -/
def lower (s : String) : String :=
  String.ofList (lowerAfter [] s.toList)

end Exemplar.Text
