/-
Exemplar.Shell.Parser.Context — what characters mean where they stand.

Inside a word quotes, parameters and arithmetic may stand in each other, and each says what
characters mean inside of it; `Context` is a stack of that. What is collected of a part goes into
the part around it when it ends.

  §1 what stands deeper
  §2 contexts
  §3 words that are being read
-/
import Exemplar.Shell.Token

namespace Exemplar.Shell

/-! ## §1 What stands deeper -/

/-- Reads what stands inside of a word or a command. -/
structure Inner where
  /-- A list of commands, which may be empty if `mayBeEmpty`. -/
  list : (mayBeEmpty : Bool) → Parser (Option Cmd)
  command : Parser Cmd
  /-- A list of commands with the documents in it, up to a closing parenthesis if `closed`, else up
  to the end. -/
  output : (closed : Bool) → Parser (Option Cmd)

/-! ## §2 Contexts -/

/-- What characters mean. -/
inductive Meaning where
  | base
  | singleQuoted
  | doubleQuoted
  | arithmetic
  deriving DecidableEq, Repr

/-- One level of the contexts that a character stands in. -/
structure Context where
  meaning : Meaning
  /-- Whether characters are quoted by double quotes. -/
  isQuoted : Bool := false
  /-- How many parameters are open. -/
  params : Nat := 0
  /-- How many of them stand in double quotes. -/
  quotedParams : Nat := 0
  /-- Whether double quotes are open inside of a parameter. -/
  innerQuotes : Bool := false
  /-- Whether the level ends with the parameter that began it. -/
  isOfParam : Bool := false
  /-- How many parentheses are open in arithmetic. -/
  parens : Nat := 0

/-- What pieces are collected for. -/
inductive Purpose where
  | word
  | param (name : String) (op : Operator) (colon : Bool)
  | number

/-- Pieces that are collected, the last one first, and the text after them, its last character
first. -/
structure Collection where
  purpose : Purpose
  earlier : List Piece := []
  text : List Char := []
  /-- Whether the text is quoted. -/
  quoted : Bool := false

/-- The pieces, the last one first, with the text among them. -/
def Collection.reversed (c : Collection) : List Piece :=
  if c.text.isEmpty then c.earlier
  else .text (String.ofList c.text.reverse) c.quoted :: c.earlier

/-- The pieces in their order. -/
def Collection.pieces (c : Collection) : List Piece := c.reversed.reverse

/-- Adds a character, which goes to the text before it if that is quoted alike. -/
def Collection.push (c : Collection) (char : Char) (quoted : Bool) : Collection :=
  if c.quoted = quoted then { c with text := char :: c.text }
  else { c with earlier := c.reversed, text := [char], quoted }

/-- Adds a piece. -/
def Collection.add (c : Collection) (piece : Piece) : Collection :=
  { c with earlier := piece :: c.reversed, text := [] }

/-! ## §3 Words that are being read -/

/-- How far the reading of a word has come. -/
structure Reading where
  /-- The character that is looked at; none at the end. -/
  char : Option Char
  context : Context
  outer : List Context := []
  current : Collection := { purpose := .word }
  /-- The collections that the current one will be a piece of. -/
  around : List Collection := []
  quoted : Bool := false
  /-- Whether a line starts here. -/
  atStart : Bool := true

namespace Reading

/-- Adds a character. -/
def push (r : Reading) (c : Char) (quoted : Bool) : Reading :=
  { r with current := r.current.push c quoted }

/-- Adds a piece. -/
def add (r : Reading) (piece : Piece) : Reading :=
  { r with current := r.current.add piece }

/-- Adds a character with the quoting of its context. -/
def pushHere (r : Reading) (c : Char) : Reading :=
  r.push c (r.context.meaning = .doubleQuoted || r.context.meaning = .singleQuoted)

/-- Begins a collection inside of the current one. -/
def begin (r : Reading) (purpose : Purpose) : Reading :=
  { r with current := { purpose }, around := r.current :: r.around }

/-- Ends the current collection, which becomes a piece of the one around it. -/
def finish (r : Reading) : Reading :=
  let pieces := r.current.pieces
  match r.around with
  | [] => r
  | next :: around =>
    let piece := match r.current.purpose with
      | .param name op colon => Piece.param name op colon pieces
      | _ => .number pieces
    { r with current := next.add piece, around }

/-- Enters a level. -/
def enter (r : Reading) (context : Context) : Reading :=
  { r with context, outer := r.context :: r.outer }

/-- Leaves a level. -/
def leave (r : Reading) : Reading :=
  match r.outer with
  | [] => r
  | context :: outer => { r with context, outer }

end Reading

/-- How a word is read: as a word of a command, or as a document up to its mark. -/
inductive Manner where
  | word
  /-- A word after which a document ends; nothing is expanded in it. -/
  | mark
  | document (mark : List Char) (strips : Bool)
  deriving DecidableEq

/-- Whether what is read is a document. -/
def Manner.isDocument : Manner → Bool
  | .document _ _ => true
  | _ => false

end Exemplar.Shell
