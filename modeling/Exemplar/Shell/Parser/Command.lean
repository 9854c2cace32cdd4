/-
Exemplar.Shell.Parser.Command — from tokens to commands.

The first token of a command says of which kind it is. What stands between its reserved words are
lists of commands, which are read as what stands deeper. A token that is out of place is refused,
with the one that was expected if there is only one.

  §1 redirections
  §2 simple commands
  §3 commands of several parts
  §4 pipelines and lists
-/
import Exemplar.Shell.Parser.Token

namespace Exemplar.Shell.Parser

/-! ## §1 Redirections -/

/-- The mark of a document, with its quotes taken away. -/
def markOf (word : Word) : List Char :=
  word.flatMap fun
    | .text s _ => s.toList
    | _ => []

/-- Reads the operand of a redirection. -/
def operand (inner : Inner) : Parser Redirection := do
  match (← get).opened with
  | .file descriptor access =>
    if (← readToken inner) ≠ .word then unexpected
    pure (.file descriptor access (← get).word)
  | .copy descriptor =>
    if (← readToken inner) ≠ .word then unexpected
    let word := (← get).word
    match (Word.plain? word).map String.toList with
    | some ['-'] => pure (.copy descriptor none)
    | some [d] =>
      if d.isDigit then pure (.copy descriptor (some (d.toNat - '0'.toNat)))
      else pure (.like descriptor word)
    | _ => pure (.like descriptor word)
  | .document descriptor strips =>
    expect { isMark := true }
    if (← readToken inner) ≠ .word then unexpected
    let s ← get
    let number := s.nextDocument
    let expands := !s.quoted
    let document : Announced := ⟨number, markOf s.word, strips, expands⟩
    set { s with nextDocument := number + 1, announced := s.announced ++ [document] }
    pure (.document descriptor number expands)

/-! ## §2 Simple commands -/

/-- The names that cannot be those of functions. -/
def specialNames : List String :=
  [".", ":", "break", "continue", "eval", "exec", "exit", "export", "local", "readonly", "return",
   "set", "shift", "times", "trap", "unset"]

/-- How far the reading of a simple command has come; the last word and redirection come first. -/
structure Simple where
  assigns : List Word := []
  words : List Word := []
  redirs : List Redirection := []

/-- Reads a simple command, or the definition of a function. -/
def simple (inner : Inner) : Parser Cmd := do
  let line := (← get).line
  loop (fun (c : Simple) => do
    expect { aliases := c.words.isEmpty }
    match ← readToken inner with
    | .word =>
      let word := (← get).word
      if c.words.isEmpty && Word.isAssignment word then
        pure (.inl { c with assigns := word :: c.assigns })
      else pure (.inl { c with words := word :: c.words })
    | .redirection =>
      let redir ← operand inner
      pure (.inl { c with redirs := redir :: c.redirs })
    | token =>
      let ended : Parser (Simple ⊕ Cmd) := do
        pushBack
        pure (.inr (.simple line c.assigns.reverse c.words.reverse c.redirs.reverse))
      match token, c.words with
      | .leftParen, [word] =>
        if c.assigns.isEmpty && c.redirs.isEmpty then
          if (← readToken inner) ≠ .rightParen then unexpected (some .rightParen)
          match Word.plain? word with
          | some name =>
            if !isName name || specialNames.contains name then refuse "Bad function name"
            expect .command
            let line := (← get).line
            let body ← inner.command
            pure (.inr (.define line name body))
          | none => refuse "Bad function name"
        else ended
      | _, _ => ended) endless {}

/-! ## §3 Commands of several parts -/

/-- Reads a token that has to be a certain one. -/
def demand (inner : Inner) (token : Token) : Parser Unit := do
  if (← readToken inner) ≠ token then unexpected (some token)

/-- Reads the branches of a choice, from a test on. -/
def branches (inner : Inner) : Parser Cmd := do
  let test ← inner.list false
  demand inner (.keyword "then")
  let body ← inner.list false
  let read ← loop (fun (read : List (Option Cmd × Option Cmd)) => do
    if (← readToken inner) = .keyword "elif" then
      let test ← inner.list false
      demand inner (.keyword "then")
      let body ← inner.list false
      pure (.inl ((test, body) :: read))
    else pure (.inr read)) endless [(test, body)]
  let otherwise ←
    if (← get).token = .keyword "else" then inner.list false
    else
      pushBack
      pure none
  let chosen := read.foldl (fun rest branch => some (Cmd.choose branch.1 branch.2 rest)) otherwise
  pure (chosen.getD default)

/-- Reads the arms of a choice by patterns. -/
def arms (inner : Inner) : Parser (List (List Word × Option Cmd)) :=
  loop (fun (read : List (List Word × Option Cmd)) => do
    expect { skipsLines := true, keywords := true }
    if (← readToken inner) = .keyword "esac" then pure (.inr read.reverse)
    else
      if (← get).token = .leftParen then let _ ← readToken inner
      let patterns ← loop (fun (patterns : List Word) => do
        let patterns := (← get).word :: patterns
        if (← readToken inner) = .bar then
          let _ ← readToken inner
          pure (.inl patterns)
        else pure (.inr patterns.reverse)) endless []
      if (← get).token ≠ .rightParen then unexpected (some .rightParen)
      let body ← inner.list true
      let read := (patterns, body) :: read
      expect { skipsLines := true, keywords := true }
      match ← readToken inner with
      | .keyword "esac" => pure (.inr read.reverse)
      | .endArm => pure (.inl read)
      | _ => unexpected (some .endArm)) endless []

/-- The word that stands for all parameters. -/
def allParams : Word := [.mark, .param "@" .value false [], .mark]

/-- Reads the words of a loop, and what ends them. -/
def loopWords (inner : Inner) : Parser (List Word) := do
  expect .command
  if (← readToken inner) = .keyword "in" then
    let words ← loop (fun (words : List Word) => do
      if (← readToken inner) = .word then
        let word := (← get).word
        pure (.inl (word :: words))
      else pure (.inr words.reverse)) endless []
    let token := (← get).token
    if token ≠ .newline && token ≠ .semicolon then unexpected
    pure words
  else
    if (← get).token ≠ .semicolon then pushBack
    pure [allParams]

/-- Reads the redirections that follow on a command. -/
def redirections (inner : Inner) : Parser (List Redirection) := do
  expect { keywords := true, aliases := true }
  let redirs ← loop (fun (redirs : List Redirection) => do
    if (← readToken inner) = .redirection then
      let redir ← operand inner
      pure (.inl (redir :: redirs))
    else pure (.inr redirs.reverse)) endless []
  pushBack
  pure redirs

/-- Reads a command. -/
def command (inner : Inner) : Parser Cmd := do
  let line := (← get).line
  -- Redirections for the whole of a command. Those of a subshell take the place of its own.
  let finish (body : Option Cmd) : Parser Cmd := do
    let redirs ← redirections inner
    if redirs.isEmpty then pure (body.getD default)
    else match body with
      | some (.subshell own body _) => pure (.subshell own body redirs)
      | body => pure (.redirected line body redirs)
  match ← readToken inner with
  | .keyword "if" =>
    let chosen ← branches inner
    demand inner (.keyword "fi")
    finish (some chosen)
  | .keyword word =>
    if word = "while" || word = "until" then
      let test ← inner.list false
      demand inner (.keyword "do")
      let body ← inner.list false
      demand inner (.keyword "done")
      finish (some (.loop (word = "until") test body))
    else if word = "for" then
      let token ← readToken inner
      let s ← get
      match token, s.quoted, Word.plain? s.word with
      | .word, false, some name =>
        if !isName name then refuse "Bad for loop variable"
        let words ← loopWords inner
        expect .command
        demand inner (.keyword "do")
        let body ← inner.list false
        demand inner (.keyword "done")
        finish (some (.forEach line name words body))
      | _, _, _ => refuse "Bad for loop variable"
    else if word = "case" then
      if (← readToken inner) ≠ .word then unexpected (some .word)
      let word := (← get).word
      expect .command
      demand inner (.keyword "in")
      let read ← arms inner
      finish (some (.byPattern line word read))
    else if word = "\x7b" then
      let body ← inner.list false
      demand inner (.keyword "\x7d")
      finish body
    else unexpected
  | .leftParen =>
    let body ← inner.list false
    demand inner .rightParen
    let redirs ← redirections inner
    pure (.subshell line body redirs)
  | .word =>
    pushBack
    simple inner
  | .redirection =>
    pushBack
    simple inner
  | _ => unexpected

/-! ## §4 Pipelines and lists -/

/-- Reads commands that are joined by pipes. -/
def pipeline (inner : Inner) : Parser Cmd := do
  let negated := (← readToken inner) = .keyword "!"
  if negated then expect { keywords := true, aliases := true } else pushBack
  let first ← command inner
  let parts ← loop (fun (parts : List Cmd) => do
    if (← readToken inner) = .bar then
      expect .command
      let part ← command inner
      pure (.inl (part :: parts))
    else pure (.inr parts.reverse)) endless [first]
  pushBack
  let cmd := match parts with
    | [only] => only
    | parts => .pipeline parts false
  pure (if negated then .not cmd else cmd)

/-- Reads pipelines of which each runs or not, as the one before it ended. -/
def andOr (inner : Inner) : Parser Cmd := do
  let first ← pipeline inner
  loop (fun (cmd : Cmd) => do
    match ← readToken inner with
    | .andAnd =>
      expect .command
      pure (.inl (.both cmd (← pipeline inner)))
    | .orOr =>
      expect .command
      pure (.inl (.either cmd (← pipeline inner)))
    | _ =>
      pushBack
      pure (.inr cmd)) endless first

/-- A command that is sent to run beside the script. -/
def inBackground : Cmd → Cmd
  | .pipeline parts _ => .pipeline parts true
  | .redirected line body redirs => .background line body redirs
  | cmd => .background 0 (some cmd) []

/-- How a list of commands ends. -/
inductive ListEnd where
  /-- At a newline: the list is all that is read at once. -/
  | line
  /-- At a token that ends lists; it `mayBeEmpty` or not. -/
  | token (mayBeEmpty : Bool)
  deriving DecidableEq

/-- Reads a list of commands; gives also whether the script was at its end before any. -/
def listUpTo (inner : Inner) (ending : ListEnd) : Parser (Option Cmd × Bool) := do
  let byLine := ending = .line
  let mayBeEmpty := ending = .token true
  let atEnd (cmd : Option Cmd) : Parser ((Option Cmd × Bool) ⊕ (Option Cmd × Bool)) := do
    documents inner
    modify fun s => { s with token := .eof, pushedBack := true }
    pure (.inr (cmd, cmd.isNone && byLine))
  loop (fun (cmd, started) => do
    expect { skipsLines := !byLine, keywords := true, aliases := true }
    match ← readToken inner with
    | .newline =>
      documents inner
      pure (.inr (cmd, false))
    | .eof => atEnd cmd
    | token =>
      pushBack
      if !byLine && (started || mayBeEmpty) && token.endsList then pure (.inr (cmd, false))
      else
        let part ← andOr inner
        let token ← readToken inner
        let part := if token = .ampersand then inBackground part else part
        let joined := some (match cmd with
          | none => part
          | some cmd => Cmd.sequence cmd part)
        match token with
        | .eof => atEnd joined
        | .newline =>
          pushBack
          pure (.inl (joined, true))
        | .ampersand => pure (.inl (joined, true))
        | .semicolon => pure (.inl (joined, true))
        | _ =>
          if byLine then unexpected
          pushBack
          pure (.inr (joined, false))) endless (none, false)

end Exemplar.Shell.Parser
