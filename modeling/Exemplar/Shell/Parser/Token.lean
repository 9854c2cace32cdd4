/-
Exemplar.Shell.Parser.Token — reading the next token.

What a token is depends on what is expected: a reserved word is only that where a command may begin,
and the same is true of an alias.

  §1 bare tokens
  §2 reserved words and aliases
-/
import Exemplar.Shell.Parser.Word

namespace Exemplar.Shell.Parser

/-! ## §1 Bare tokens -/

/-- Passes over the rest of a line. -/
def passComment : Parser Unit := loop (fun _ => do
  match ← next with
  | some '\n' =>
    back (some '\n')
    pure (.inr ())
  | none => pure (.inr ())
  | some _ => pure (.inl ())) endless ()

/-- Reads a token, whatever it is read for. -/
def readBare (inner : Inner) : Parser Token := do
  let s ← get
  if s.pushedBack then
    set { s with pushedBack := false }
    pure s.token
  else
    let give (token : Token) : Parser (Unit ⊕ Token) := do
      modify fun s => { s with token }
      pure (.inr token)
    let double (second : Char) (both one : Token) : Parser (Unit ⊕ Token) := do
      match ← nextJoined with
      | some c =>
        if c = second then give both
        else
          back (some c)
          give one
      | none => give one
    loop (fun _ => do
      match ← nextJoined with
      | some ' ' => pure (.inl ())
      | some '\t' => pure (.inl ())
      | some '\u0100' => pure (.inl ())
      | some '#' =>
        passComment
        pure (.inl ())
      | some '\n' =>
        countLine
        give .newline
      | none => give .eof
      | some '&' => double '&' .andAnd .ampersand
      | some '|' => double '|' .orOr .bar
      | some ';' => double ';' .endArm .semicolon
      | some '(' => give .leftParen
      | some ')' => give .rightParen
      | c =>
        let manner := if (← get).expectation.isMark then Manner.mark else .word
        readWord inner c .base manner
        pure (.inr (← get).token)) endless ()

/-! ## §2 Reserved words and aliases -/

/-- Reads a token: a newline, a reserved word or an alias is one only where it is looked for. -/
def readToken (inner : Inner) : Parser Token := do
  let expectation := (← get).expectation
  loop (fun (expectation : Expectation) => do
    let token ← readBare inner
    if token = .newline && expectation.skipsLines then
      documents inner
      expect {}
      pure (.inl expectation)
    else
      let s ← get
      let expectation := { expectation with
        aliases := expectation.aliases || s.expectation.aliases
        keywords := expectation.keywords || s.expectation.keywords
        skipsLines := expectation.skipsLines || s.expectation.skipsLines }
      expect {}
      if token ≠ .word || s.quoted then pure (.inr token)
      else match Word.plain? s.word with
        | none => pure (.inr token)
        | some text =>
          if expectation.keywords && keywords.contains text then
            modify fun s => { s with token := .keyword text }
            pure (.inr (.keyword text))
          else
            let text := stroked text
            let value? := if expectation.aliases && !s.isReading text then s.aliases.lookup text
              else none
            match value? with
            | none => pure (.inr token)
            | some value =>
              let endsBlank := value.back = ' ' || value.back = '\t'
              if value ≠ "" then
                modify fun s => { s with
                  chars := value.toList, quotation := some ⟨text, endsBlank, s.left⟩
                  outer := (s.chars, s.quotation) :: s.outer, left := [] }
              pure (.inl expectation)) endless expectation

end Exemplar.Shell.Parser
