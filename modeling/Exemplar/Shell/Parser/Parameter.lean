/-
Exemplar.Shell.Parser.Parameter — parameters and commands between backquotes in words.

A parameter is its name alone after a dollar sign, or its name in braces with what is to be done to
its value. A word that this needs is read as part of the word around it.

  §1 parameters
  §2 commands between backquotes
-/
import Exemplar.Shell.Parser.Context

namespace Exemplar.Shell.Parser

/-! ## §1 Parameters -/

/-- Whether a character names a parameter by itself. -/
def isSpecial (c : Char) : Bool := "#?$!-*@".toList.contains c || c.isDigit

/-- Characters, as long as they fit, and the one after them. -/
def takeJoined (p : Char → Bool) (first : Char) : Parser (String × Option Char) :=
  loop (fun s => do
    match ← nextJoined with
    | some c => if p c then pure (.inl (s.push c)) else pure (.inr (s, some c))
    | none => pure (.inr (s, none))) endless (String.singleton first)

/-- What a parameter in braces is: its name, what is asked of it, and whether it counts as not set
when it is empty. A brace that ends it right away is taken only if it is all that was asked. -/
def bracedParam : Parser (String × Operator × Bool) := do
  let unknown (name : String) (c : Option Char) : Parser (String × Operator × Bool) := do
    back c
    pure (name, .unknown, false)
  -- What follows on the name of a parameter.
  let operator (name : String) (c : Option Char) : Parser (String × Operator × Bool) := do
    let ofLetter (c : Option Char) : Operator := match c with
      | some '\x7d' => .value
      | some '-' => .orElse
      | some '+' => .ifSet
      | some '?' => .orComplain
      | some '=' => .orAssign
      | _ => .unknown
    let trim (letter : Char) (op : Bool → Operator) : Parser (String × Operator × Bool) := do
      let c ← nextJoined
      if c = some letter then pure (name, op true, false)
      else
        back c
        pure (name, op false, false)
    match c with
    | some ':' =>
      let c ← nextJoined
      pure (name, ofLetter c, true)
    | some '%' => trim '%' .dropEnd
    | some '#' => trim '#' .dropStart
    | c => pure (name, ofLetter c, false)
  -- What follows on the name of a parameter whose length is asked for.
  let length (name : String) (c : Option Char) : Parser (String × Operator × Bool) := do
    back c
    pure (name, if c = some '\x7d' then .length else .unknown, false)
  match ← nextJoined with
  | none => pure ("", .unknown, false)
  | some c =>
    if startsName c then
      let (name, c) ← takeJoined inName c
      operator name c
    else if c.isDigit then
      let (name, c) ← takeJoined Char.isDigit c
      operator name c
    else if c = '\x7d' then unknown "" (some c)
    else if c = '#' then
      match ← nextJoined with
      | none => operator "#" none
      | some d =>
        if startsName d then
          let (name, c) ← takeJoined inName d
          length name c
        else if d.isDigit then
          let (name, c) ← takeJoined Char.isDigit d
          length name c
        else
          let e ← nextJoined
          if d = '\x7d' || e ≠ some '\x7d' then
            back e
            operator "#" (some d)
          else if isSpecial d then length (String.singleton d) e
          else unknown "" e
    else
      let d ← nextJoined
      if isSpecial c then operator (String.singleton c) d else unknown "" d

/-- Reads a parameter after `$`, given its first character. -/
def param (r : Reading) (first : Char) : Parser Reading := do
  if first ≠ '\x7b' then
    if startsName first then
      let (name, c) ← takeJoined inName first
      back c
      pure (r.add (.param name .value false []))
    else pure (r.add (.param (String.singleton first) .value false []))
  else
    let (name, op, colon) ← bracedParam
    if op = .value && !colon then pure (r.add (.param name op false []))
    else
      let isTrim := match op with
        | .dropEnd _ | .dropStart _ => true
        | _ => false
      let meaning := if isTrim then .base
        else if r.context.meaning = .arithmetic then .doubleQuoted
        else r.context.meaning
      let r := if meaning ≠ r.context.meaning || r.context.innerQuotes then
          r.enter { meaning, isOfParam := true, isQuoted := meaning ≠ .base }
        else r
      let context := { r.context with
        params := r.context.params + 1
        quotedParams := r.context.quotedParams + (if r.context.isQuoted then 1 else 0) }
      pure ({ r with context }.begin (.param name op colon))

/-! ## §2 Commands between backquotes -/

/-- The text up to the backquote that ends a command inside of a word, without the backslashes that
are only there for its sake. -/
def backquoted (isQuoted : Bool) : Parser String :=
  loop (fun s => do
    match ← nextJoined with
    | none => refuse "EOF in backquote substitution"
    | some '\x60' => pure (.inr s)
    | some '\\' =>
      match ← next with
      | none => pure (.inl (s.push '\\'))
      | some c =>
        if c = '\\' || c = '\x60' || c = '$' || (isQuoted && c = '"') then pure (.inl (s.push c))
        else pure (.inl ((s.push '\\').push c))
    | some '\n' =>
      countLine
      pure (.inl (s.push '\n'))
    | some c => pure (.inl (s.push c))) endless ""

end Exemplar.Shell.Parser
