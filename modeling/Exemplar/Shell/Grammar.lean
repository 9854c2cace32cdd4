/-
Exemplar.Shell.Grammar — the command language in which scripts are written.

A script is a tree of commands. The words of a command are made of pieces, some of which stand for
text that is only known when the command runs: parameters, the output of other commands, and
arithmetic. The language works on bytes; a byte is written as the character of the same number.

  §1 words, redirections and commands
  §2 the shape of words
  §3 signs
-/

namespace Exemplar.Shell

/-! ## §1 Words, redirections and commands -/

/-- What is asked of a parameter. -/
inductive Operator where
  /-- Its value. -/
  | value
  /-- Its value, or else a word. -/
  | orElse
  /-- A word, if it is set. -/
  | ifSet
  /-- Its value, or else a message. -/
  | orComplain
  /-- Its value, or else a word that becomes its value. -/
  | orAssign
  /-- Its value without its end. -/
  | dropEnd (longest : Bool)
  /-- Its value without its start. -/
  | dropStart (longest : Bool)
  /-- How long its value is. -/
  | length
  /-- Nothing that could be done. -/
  | unknown
  deriving DecidableEq, Repr

/-- The way in which a file is opened by a redirection. -/
inductive Access where
  | input
  | output
  /-- Output, also over a file that is to be kept. -/
  | clobber
  | append
  | inputOutput
  deriving DecidableEq, Repr

mutual

/-- A part of a word. -/
inductive Piece where
  /-- Characters that stand for themselves; if `quoted`, they have no other meaning either. -/
  | text (s : String) (quoted : Bool)
  /-- A quotation mark, which begins or ends what is quoted. -/
  | mark
  /-- A parameter, what is asked of it, and the word for that. With `colon`, being empty counts as
  not being set. -/
  | param (name : String) (op : Operator) (colon : Bool) (word : List Piece)
  /-- The output of a command. -/
  | output (cmd : Option Cmd)
  /-- The value of an arithmetic expression. -/
  | number (expr : List Piece)

/-- A change of where a descriptor leads. -/
inductive Redirection where
  | file (descriptor : Nat) (access : Access) (path : List Piece)
  /-- To where another descriptor leads, given by a word that is not known yet. -/
  | like (descriptor : Nat) (word : List Piece)
  /-- To where another descriptor leads, or to nowhere. -/
  | copy (descriptor : Nat) (source : Option Nat)
  /-- To a document, given by its number; `expands` says whether expansions are made in it. -/
  | document (descriptor : Nat) (number : Nat) (expands : Bool)

/-- A command. Commands know the lines that they start on. -/
inductive Cmd where
  /-- Assignments, then a program or a function with its arguments. -/
  | simple (line : Nat) (assigns : List (List Piece)) (words : List (List Piece))
      (redirs : List Redirection)
  | pipeline (parts : List Cmd) (background : Bool)
  | not (body : Cmd)
  /-- The second command runs if the first one succeeds. -/
  | both (left right : Cmd)
  /-- The second command runs if the first one fails. -/
  | either (left right : Cmd)
  | sequence (left right : Cmd)
  | redirected (line : Nat) (body : Option Cmd) (redirs : List Redirection)
  | subshell (line : Nat) (body : Option Cmd) (redirs : List Redirection)
  /-- Sends a command to run beside the script. -/
  | background (line : Nat) (body : Option Cmd) (redirs : List Redirection)
  | choose (test body : Option Cmd) (otherwise : Option Cmd)
  /-- Repeats the body while the test succeeds, or, if `negated`, while it fails. -/
  | loop (negated : Bool) (test body : Option Cmd)
  | forEach (line : Nat) (name : String) (words : List (List Piece)) (body : Option Cmd)
  | byPattern (line : Nat) (word : List Piece) (arms : List (List (List Piece) × Option Cmd))
  | define (line : Nat) (name : String) (body : Cmd)

end

instance : Inhabited Piece := ⟨.mark⟩

instance : Inhabited Redirection := ⟨.copy 0 none⟩

instance : Inhabited Cmd := ⟨.simple 0 [] [] []⟩

/-- A word, by its pieces. -/
abbrev Word := List Piece

/-! ## §2 The shape of words -/

/-- Whether a character can start a name. -/
def startsName (c : Char) : Bool := c.isAlpha || c = '_'

/-- Whether a character can stand in a name. -/
def inName (c : Char) : Bool := c.isAlphanum || c = '_'

/-- Whether a text is a name. -/
def isName (s : String) : Bool :=
  match s.toList with
  | c :: cs => startsName c && cs.all inName
  | [] => false

/-- The name at the start of a text, and what comes after it. -/
def splitName (s : String) : String × String :=
  match s.toList with
  | [] => ("", "")
  | c :: cs =>
    if startsName c then
      let (name, rest) := (c :: cs).span inName
      (String.ofList name, String.ofList rest)
    else ("", s)

/-- Whether a text starts as an assignment does: with a name and `=`. -/
def isAssignment (s : String) : Bool :=
  let (name, rest) := splitName s
  name ≠ "" && rest.front = '=' && rest ≠ ""

/-- The text of a word that is nothing but characters that stand for themselves. -/
def Word.plain? : Word → Option String
  | [.text s false] => some s
  | [] => some ""
  | _ => none

/-- Whether a word starts as an assignment does. -/
def Word.isAssignment : Word → Bool
  | .text s false :: _ => Shell.isAssignment s
  | _ => false

/-! ## §3 Signs -/

/-- The sign that makes the character after it stand for itself. -/
def stroke : Char := '\x81'

/-- The sign that stands for a quotation mark. -/
def markSign : Char := '\x88'

/-- Whether a character is a sign: one that stands in a word that is kept for something that is no
character. -/
def isSign (c : Char) : Bool := stroke ≤ c && c ≤ markSign

/-- A text as words keep it, where signs that are meant as characters have a stroke before them. -/
def stroked (text : String) : String :=
  String.ofList (text.toList.flatMap fun c => if isSign c then [stroke, c] else [c])

/-- Characters of a word that is kept, without its signs. -/
def withoutSigns : List Char → List Char
  | [] => []
  | c :: rest =>
    if c = markSign then withoutSigns rest
    else if c = stroke then match rest with
      | [] => []
      | d :: rest => d :: withoutSigns rest
    else c :: withoutSigns rest

end Exemplar.Shell
