/-
Exemplar.Shell.Parser.Word — words and documents.

A word is read character by character, each as its context says. A document is read in the same way,
up to a line that is its mark.

  §1 marks of documents
  §2 output of commands
  §3 words
  §4 documents
-/
import Exemplar.Shell.Parser.Parameter

namespace Exemplar.Shell.Parser

/-! ## §1 Marks of documents -/

/-- Passes over a mark and the end of its line, if they stand there; the character at which the mark
has to begin was taken before. The first byte that differs from a mark that had begun is lost if it
is not of ASCII. -/
def passMark : (mark : List Char) → (taken : Option Char) → Parser Bool
  | [], taken => pure (taken = none || taken = some '\n')
  | m :: mark, taken => do
    if taken = some m then
      let c ← next
      let isPassed ← passMark mark c
      let isLost := mark.head? ≠ c && c.any (128 ≤ ·.toNat)
      unless isPassed || isLost do back c
      pure isPassed
    else pure false

/-- At the start of a line of a document, looks for the mark that ends it. -/
def checkMark (mark : List Char) (strips : Bool) (r : Reading) : Parser Reading := do
  let char ← if strips then loop (fun c => do
      if c = some '\t' then return .inl (← next) else return .inr c) endless r.char
    else pure r.char
  if ← passMark mark char then
    countLine
    pure { r with char := none, atStart := false }
  else pure { r with char, atStart := false }

/-! ## §2 Output of commands -/

/-- Reads what begins with `$`. -/
def dollar (inner : Inner) (manner : Manner) (r : Reading) : Parser Reading := do
  match ← nextJoined with
  | none => pure (r.pushHere '$')
  | some c =>
    if manner = .mark || (c ≠ '(' && c ≠ '\x7b' && !startsName c && !isSpecial c) then
      back (some c)
      pure (r.pushHere '$')
    else if c = '(' then
      match ← nextJoined with
      | some '(' =>
        pure ((r.enter { meaning := .arithmetic, isQuoted := true }).begin .number)
      | d =>
        back d
        let announced := (← get).announced
        modify fun s => { s with announced := [] }
        let cmd ← inner.output true
        modify fun s => { s with announced, pushedBack := false }
        pure (r.add (.output cmd))
    else param r c

/-- Reads a command between backquotes: its text is taken first and read by itself. No token is to
be read again after that. -/
def oldOutput (inner : Inner) (r : Reading) : Parser Reading := do
  let source ← backquoted r.context.isQuoted
  let saved ← get
  set { saved with
    chars := source.toList, quotation := none, outer := [], mayGrow := false, line := 1
    announced := [], expectation := {} }
  let cmd ← inner.output false
  modify fun s => { saved with
    nextDocument := s.nextDocument, documents := s.documents, pushedBack := false }
  pure (r.add (.output cmd))

/-! ## §3 Words -/

/-- Reads the next character of a word, and what begins with it; gives the word when it is over. -/
def wordStep (inner : Inner) (manner : Manner) (r : Reading) : Parser (Reading ⊕ Reading) := do
  let r ← match manner, r.atStart with
    | .document mark strips, true => checkMark mark strips r
    | _, _ => pure { r with atStart := false }
  let context := r.context
  let isDocument := manner.isDocument
  -- Goes on to the next character.
  let goOn (r : Reading) (atStart : Bool := false) : Parser (Reading ⊕ Reading) := do
    let char ← if r.context.meaning = .singleQuoted then next else nextJoined
    pure (.inl { r with char, atStart })
  let mark (r : Reading) : Reading := if isDocument then r else r.add .mark
  let toggleInner (r : Reading) : Reading :=
    if 0 < r.context.params then
      { r with context := { r.context with innerQuotes := !r.context.innerQuotes } }
    else r
  match r.char with
  | none => pure (.inr r)
  | some c =>
    if c = '\n' then
      if context.meaning = .base && context.params = 0 then pure (.inr r)
      else
        countLine
        goOn (r.pushHere c) true
    else if context.meaning = .singleQuoted then
      if c = '\x27' && (!isDocument || 0 < context.params) then
        let context := if context.quotedParams = 0 then
            { context with meaning := .base, isQuoted := false } else context
        goOn (mark { r with context, quoted := true })
      else goOn (r.push c true)
    else if c = '\\' then
      match ← next with
      | none => goOn (r.push '\\' true)
      | some d =>
        let keeps := context.isQuoted && d ≠ '\\' && d ≠ '\x60' && d ≠ '$' &&
          (d ≠ '"' || (isDocument && context.params = 0)) &&
          (d ≠ '\x7d' || context.params = 0)
        let r := if keeps then r.push '\\' true else r
        goOn { r.push d true with quoted := true }
    else if c = '"' && context.meaning = .doubleQuoted then
      if isDocument && context.params = 0 then goOn (r.push c true)
      else
        let context := if context.quotedParams = 0 then
            { context with meaning := .base, isQuoted := false } else context
        goOn (mark (toggleInner { r with context, quoted := true }))
    else if c = '"' && context.meaning = .base then
      let context := { context with meaning := .doubleQuoted, isQuoted := true }
      goOn (mark (toggleInner { r with context }))
    else if c = '\x27' && context.meaning = .base then
      goOn (mark { r with context := { context with meaning := .singleQuoted } })
    else if c = '$' then
      let r ← dollar inner manner r
      goOn r
    else if c = '\x60' then
      if manner = .mark then goOn (r.push c false)
      else
        let r ← oldOutput inner r
        goOn r
    else if c = '\x7d' then
      if !context.innerQuotes && 0 < context.params then
        let params := context.params - 1
        let r := if params = 0 && context.isOfParam then r.leave
          else { r with context := { context with
            params, quotedParams := context.quotedParams - 1 } }
        goOn r.finish
      else goOn (r.pushHere c)
    else if context.meaning = .arithmetic && c = '(' then
      goOn ({ r with context := { context with parens := context.parens + 1 } }.push c false)
    else if context.meaning = .arithmetic && c = ')' then
      if 0 < context.parens then
        goOn ({ r with context := { context with parens := context.parens - 1 } }.push c false)
      else
        match ← nextJoined with
        | some ')' => goOn r.leave.finish
        | d =>
          back d
          goOn (r.push c false)
    else if context.meaning = .base && "<>();&| \t".toList.contains c && context.params = 0 then
      pure (.inr r)
    else goOn (r.pushHere c)

/-- Reads a redirection up to its operand, after its first character. -/
def redirection (first : Char) (digit : Option Nat) : Parser Opened := do
  if first = '>' then
    let descriptor := digit.getD 1
    match ← nextJoined with
    | some '>' => pure (.file descriptor .append)
    | some '|' => pure (.file descriptor .clobber)
    | some '&' => pure (.copy descriptor)
    | c =>
      back c
      pure (.file descriptor .output)
  else
    let descriptor := digit.getD 0
    match ← nextJoined with
    | some '<' =>
      match ← nextJoined with
      | some '-' => pure (.document descriptor true)
      | c =>
        back c
        pure (.document descriptor false)
    | some '&' => pure (.copy descriptor)
    | some '>' => pure (.file descriptor .inputOutput)
    | c =>
      back c
      pure (.file descriptor .input)

/-- Reads a word or a document, given its first character. -/
def readWord (inner : Inner) (first : Option Char) (meaning : Meaning) (manner : Manner) :
    Parser Unit := do
  let start : Reading :=
    { char := first, context := { meaning, isQuoted := meaning = .doubleQuoted } }
  let r ← loop (wordStep inner manner) endless start
  if r.context.meaning = .arithmetic then refuse "Missing '))'"
  if r.context.meaning ≠ .base && !manner.isDocument then refuse "Unterminated quoted string"
  if r.context.params ≠ 0 then refuse "Missing '\x7d'"
  let word := r.current.pieces
  let digit? : Option (Option Nat) := match Word.plain? word with
    | none => none
    | some text =>
      match text.toList with
      | [] => some none
      | [d] => if d.isDigit then some (some (d.toNat - '0'.toNat)) else none
      | _ => none
  match r.char, digit?, manner.isDocument || r.quoted with
  | some c, some digit, false =>
    if c = '<' || c = '>' then
      let opened ← redirection c digit
      modify fun s => { s with opened, token := .redirection }
    else
      back r.char
      modify fun s => { s with word, quoted := r.quoted, token := .word }
  | _, _, _ =>
    if !manner.isDocument then back r.char
    modify fun s => { s with word, quoted := r.quoted, token := .word }

/-! ## §4 Documents -/

/-- Reads the documents that were announced. -/
def documents (inner : Inner) : Parser Unit := do
  let announced := (← get).announced
  modify fun s => { s with announced := [] }
  for document in announced do
    let meaning := if document.expands then Meaning.doubleQuoted else .singleQuoted
    let first ← if document.expands then nextJoined else next
    let token := (← get).token
    readWord inner first meaning (.document document.mark document.strips)
    modify fun s => { s with
      token, documents := (document.number, s.word) :: s.documents }

end Exemplar.Shell.Parser
