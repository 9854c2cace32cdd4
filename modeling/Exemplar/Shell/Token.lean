/-
Exemplar.Shell.Token — the smallest parts of a script, and how they are read.

A script is read character by character. The text of an alias is read in its place, and the alias is
not looked at again before a character after its text is passed. Lines are counted as their ends are
passed.

  §1 tokens
  §2 the state of a reader
  §3 characters
-/
import Exemplar.Shell.Grammar

namespace Exemplar.Shell

/-! ## §1 Tokens -/

/-- The kinds of tokens. -/
inductive Token where
  | eof
  | newline
  | semicolon
  | ampersand
  | andAnd
  | orOr
  | bar
  | leftParen
  | rightParen
  | endArm
  | redirection
  | word
  /-- A word that is reserved. -/
  | keyword (word : String)
  deriving DecidableEq, Repr, Inhabited

/-- The reserved words. -/
def keywords : List String :=
  ["!", "case", "do", "done", "elif", "else", "esac", "fi", "for", "if", "in", "then", "until",
   "while", "\x7b", "\x7d"]

/-- A token as messages show it. -/
def Token.shown : Token → String
  | .eof => "end of file"
  | .newline => "newline"
  | .semicolon => "\";\""
  | .ampersand => "\"&\""
  | .andAnd => "\"&&\""
  | .orOr => "\"||\""
  | .bar => "\"|\""
  | .leftParen => "\"(\""
  | .rightParen => "\")\""
  | .endArm => "\";;\""
  | .redirection => "redirection"
  | .word => "word"
  | .keyword name => "\"" ++ name ++ "\""

/-- Whether a token ends a list of commands. -/
def Token.endsList : Token → Bool
  | .eof | .rightParen | .endArm => true
  | .keyword name =>
    ["do", "done", "elif", "else", "esac", "fi", "then", "\x7d"].contains name
  | _ => false

/-! ## §2 The state of a reader -/

/-- What is looked for while the next token is read. -/
structure Expectation where
  /-- Newlines are passed over. -/
  skipsLines : Bool := false
  keywords : Bool := false
  aliases : Bool := false
  /-- The token is the mark at which a document ends. -/
  isMark : Bool := false

/-- What the next token is read for where a command can begin. -/
def Expectation.command : Expectation := { skipsLines := true, keywords := true, aliases := true }

/-- A redirection of which the operand is still to be read. -/
inductive Opened where
  | file (descriptor : Nat) (access : Access)
  | copy (descriptor : Nat)
  /-- A document; `strips` says whether tabulators at the start of its lines are dropped. -/
  | document (descriptor : Nat) (strips : Bool)
  deriving Inhabited

/-- A document that is still to be read: its number, the mark at which it ends, and how it is
read. -/
structure Announced where
  number : Nat
  mark : List Char
  strips : Bool
  expands : Bool

/-- The text of an alias that is being read: its name, whether it ends in a blank, and the aliases
that had just been left when it began. -/
structure Quotation where
  name : String
  endsBlank : Bool
  left : List String

/-- The state of a reader. -/
structure Reader where
  chars : List Char
  /-- The alias whose text is being read. -/
  quotation : Option Quotation := none
  /-- What is read after that. -/
  outer : List (List Char × Option Quotation) := []
  /-- The aliases whose texts were left as the last character was read. -/
  left : List String := []
  /-- Whether more may come when all is read. -/
  mayGrow : Bool := false
  line : Nat := 1
  aliases : List (String × String) := []
  /-- The number of the next document. -/
  nextDocument : Nat := 0
  documents : List (Nat × Word) := []
  announced : List Announced := []
  /-- The last token, and whether it is to be read again. -/
  token : Token := .eof
  pushedBack : Bool := false
  word : Word := []
  /-- Whether a part of the last word was quoted. -/
  quoted : Bool := false
  opened : Opened := default
  expectation : Expectation := {}

/-- Whether the text of an alias is being read, or was left just now. -/
def Reader.isReading (r : Reader) (name : String) : Bool :=
  let isOf (q : Quotation) : Bool := q.name = name || q.left.contains name
  r.left.contains name || r.quotation.any isOf || r.outer.any (·.2.any isOf)

/-- Why reading ends early. -/
inductive Fault where
  | malformed (line : Nat) (message : String)
  /-- The rest of the command has not come yet. -/
  | unfinished
  deriving Repr

/-- A part of reading that gives an `α`. -/
abbrev Parser (α : Type) := StateT Reader (Except Fault) α

namespace Parser

/-- Gives up: the script is malformed on the line that was reached. -/
def refuse {α : Type} (message : String) : Parser α := do
  throw (.malformed (← get).line ("Syntax error: " ++ message))

/-- Gives up at the last token. -/
def unexpected {α : Type} (expected : Option Token := none) : Parser α := do
  let found := (← get).token.shown ++ " unexpected"
  match expected with
  | some token => refuse (found ++ " (expecting " ++ token.shown ++ ")")
  | none => refuse found

/-- The most rounds that a loop takes. -/
def endless : Nat := 0x1000000000000

/-- Does something with a state again and again, until it gives a value. -/
def loop {σ α : Type} (step : σ → Parser (σ ⊕ α)) : Nat → σ → Parser α
  | 0, _ => throw .unfinished
  | fuel + 1, s => do
    match ← step s with
    | .inl s => loop step fuel s
    | .inr a => pure a

/-! ## §3 Characters -/

/-- Takes the next character; none at the end. -/
def next : Parser (Option Char) := do
  let s ← get
  match s.chars with
  | c :: chars =>
    set { s with chars, left := [] }
    pure (some c)
  | [] =>
    set { s with left := [] }
    leave (s.outer.length + 1)
where
  /-- Goes back to what the text of an alias stood in. -/
  leave : Nat → Parser (Option Char)
    | 0 => pure none
    | fuel + 1 => do
      let s ← get
      match s.chars, s.outer with
      | c :: chars, _ =>
        set { s with chars }
        pure (some c)
      | [], (chars, quotation) :: outer =>
        let again := s.quotation.any (·.endsBlank)
        let left := s.quotation.elim [] fun q => q.name :: q.left
        set { s with
          chars, quotation, outer, left := left ++ s.left
          expectation := { s.expectation with aliases := s.expectation.aliases || again } }
        leave fuel
      | [], [] => if s.mayGrow then throw .unfinished else pure none

/-- Gives a character back. -/
def back (c : Option Char) : Parser Unit :=
  match c with
  | none => pure ()
  | some c => modify fun s => { s with chars := c :: s.chars }

/-- Counts a line. -/
def countLine : Parser Unit := modify fun s => { s with line := s.line + 1 }

/-- Takes the next character after joining lines that end in a backslash. -/
def nextJoined : Parser (Option Char) := loop (fun _ => do
  match ← next with
  | some '\\' =>
    match ← next with
    | some '\n' =>
      countLine
      pure (.inl ())
    | c =>
      back c
      pure (.inr (some '\\'))
  | c => pure (.inr c)) endless ()

/-- Reads the last token again. -/
def pushBack : Parser Unit := modify fun s => { s with pushedBack := true }

/-- Says what the next token is read for. -/
def expect (expectation : Expectation) : Parser Unit :=
  modify fun s => { s with expectation }

end Parser

end Exemplar.Shell
