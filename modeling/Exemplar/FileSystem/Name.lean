/-
Exemplar.FileSystem.Name — the names of entries.

A name is a text, or, since the system puts no rule on names, bytes that are not UTF-8.
-/
import Exemplar.Text.Utf8

namespace Exemplar

/-- The name of an entry: a text, or bytes that are not UTF-8. -/
inductive Name where
  | text (name : String)
  | raw (bytes : Bytes)
  deriving DecidableEq, Repr

namespace Name

/-- The name that some bytes spell. -/
def ofBytes (bytes : Bytes) : Name :=
  match Utf8.decode? bytes with
  | some name => .text name
  | none => .raw bytes

/-- A name as text, if it is one. -/
def text? : Name → Option String
  | .text name => some name
  | .raw _ => none

/-- The bytes of a name. -/
def bytes : Name → Bytes
  | .text name => Utf8.encode name
  | .raw bytes => bytes

/-- How many bytes a name has. -/
def size : Name → Nat
  | .text name => name.utf8ByteSize
  | .raw bytes => bytes.length

/-- The order in which names are shown: by bytes, and what is not text after the texts. -/
def le : Name → Name → Bool
  | .text a, .text b => a ≤ b
  | .text _, .raw _ => true
  | .raw _, .text _ => false
  | .raw a, .raw b => a ≤ b

end Name

end Exemplar
