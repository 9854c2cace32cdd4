/-
Exemplar.Shell.Parser — from characters to commands.

Reading goes one command at a time: a newline after a command ends it, and what comes after it is
read when that command has run. The output of a command is asked for by a command inside a word, so
words and commands are read by turns: `Inner` reads what stands deeper, and `level` closes the
circle for a bounded depth.
-/
import Exemplar.Shell.Parser.Command

namespace Exemplar.Shell.Parser

/-- Gives the documents that are announced no text, as what they were announced in is over. -/
def emptyDocuments (inner : Inner) : Parser Unit := do
  let s ← get
  set { s with chars := [], quotation := none, outer := [], mayGrow := false }
  documents inner
  modify fun after => { after with
    chars := s.chars, quotation := s.quotation, outer := s.outer, mayGrow := s.mayGrow
    line := s.line }

/-- Reads what stands at most so deep. -/
def level : (depth : Nat) → Inner
  | 0 => ⟨fun _ => refuse "too deep", refuse "too deep", fun _ => refuse "too deep"⟩
  | depth + 1 =>
    { list := fun mayBeEmpty => do pure (← listUpTo (level depth) (.token mayBeEmpty)).1
      command := fun reader => command (level depth) reader
      output := fun closed => do
        let (cmd, _) ← listUpTo (level depth) (.token true)
        if closed then
          demand (level depth) .rightParen
          emptyDocuments (level depth)
        else documents (level depth)
        pure cmd }

/-- How deep words and commands may stand in each other. -/
def depthLimit : Nat := 100000

/-- A character that no text holds, as it is no byte. -/
def beyondBytes : Char := '\u0100'

/-- Reads all of a text as if it stood between double quotes. -/
def template : Parser Word := do
  let first ← nextJoined
  readWord (level depthLimit) first .doubleQuoted (.document [beyondBytes] false)
  pure (← get).word

/-- Reads the next commands of a script, up to the end of a line; gives also whether the script was
at its end before any. -/
def line : Parser (Option Cmd × Bool) := do
  modify fun s => { s with announced := [], pushedBack := false, expectation := {} }
  listUpTo (level depthLimit) .line

end Exemplar.Shell.Parser
