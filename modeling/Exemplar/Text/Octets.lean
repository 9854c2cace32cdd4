/-
Exemplar.Text.Octets — texts with one character for each byte.

Scripts and the programs that they call work on bytes. Here a byte is written as the character of
the same number, so that what they handle are strings in which every character is below 256.
-/
import Exemplar.Text.Utf8

namespace Exemplar.Octets

/-- Bytes as a string with one character for each. -/
def ofBytes (bytes : Bytes) : String :=
  String.ofList (bytes.map fun b => Char.ofNat b.toNat)

/-- The bytes that characters stand for. -/
def bytes (s : String) : Bytes :=
  s.toList.map fun c => UInt8.ofNat c.toNat

/-- The UTF-8 form of a text. -/
def ofText (s : String) : String := ofBytes (Utf8.encode s)

/-- The text that bytes write, broken ones shown as U+FFFD. -/
def text (s : String) : String := Utf8.decodeLossy (bytes s)

end Exemplar.Octets
