/-
Exemplar.Shell.Stream — scripts that come in blocks.

A block is asked for when what has come ends inside of a command. An interactive shell asks for each
command, and goes on with what comes next where another one gives up.

  §1 blocks and lines
  §2 reading for a user
  §3 running
-/
import Exemplar.Shell.Prompt

namespace Exemplar.Shell

/-! ## §1 Blocks and lines -/

/-- The part of a text up to the end of a line. -/
def upToLine : Nat → List Char → List Char
  | 0, _ => []
  | _, [] => []
  | n + 1, c :: cs => c :: upToLine (if c = '\n' then n else n + 1) cs

/-- The next block of what a descriptor leads to. -/
def blockOf (descriptor : Nat) : Act String := do
  match ← task (Task.read descriptor 8191) with
  | .ok bytes => return Octets.ofBytes bytes
  | .error _ => return ""

/-- How far a script has been read and run. -/
structure Progress where
  reader : Reader
  /-- The status of the last command. -/
  status : Nat := 0
  /-- Whether the next command was asked for. -/
  isAsked : Bool := false
  /-- How often the end of the script was no reason to leave. -/
  endings : Nat := 0

/-! ## §2 Reading for a user -/

/-- Whether commands are asked for. -/
def isInteractive (isPart : Bool) : Act Bool := do return !isPart && (← get).has 'i'

/-- Asks for the next command, unless that was done. -/
def Progress.ask (engine : Engine) (isPart : Bool) (p : Progress) : Act Progress := do
  if !p.isAsked && (← isInteractive isPart) then showPrompt engine "PS1" 1
  return { p with isAsked := true }

/-- Asks for so many more lines of a command. -/
def askOn (engine : Engine) (isPart : Bool) (lines : Nat) : Act Unit := do
  if ← isInteractive isPart then showPrompt engine "PS2" lines

/-- Goes on after a command that an interactive shell gives up: what has come of the script is
dropped. -/
def Progress.recover (isPart : Bool) (p : Progress) (act : Act Progress) : Act Progress := do
  match ← attempt act with
  | .ok p => return p
  | .error .failed =>
    if ← isInteractive isPart then
      modify fun s => { s with skip := .none, loops := 0 }
      let status := (← get).status
      let reader := { p.reader with chars := [], quotation := none, outer := [] }
      return { p with reader, status, isAsked := false }
    else throw .failed
  | .error halt => throw halt

/-- How often the end of a script may be read without leaving. -/
def endingLimit : Nat := 50

/-- Whether a script is left at its end, which a shell may be told not to do. -/
def Progress.leaves (isPart : Bool) (p : Progress) : Act Bool := do
  if isPart || endingLimit ≤ p.endings then return true
  else if (← get).has 'I' then
    complain "\nUse \"exit\" to leave shell.\n"
    return false
  else
    if ← isInteractive isPart then complain "\n"
    return true

/-! ## §3 Running -/

/-- Runs a script that starts with a text and whose rest comes in blocks, an empty one at its end;
it is part of another one or not. The status is that of the last command; if there is none, it stays
what it was, but is zero for a part. With the option for that, lines are told as they are read. -/
def runBlocks (engine : Engine) (isPart : Bool) (start : String) (nextBlock : Act String) :
    Act Unit := do
  let { reached, status, .. } ← get
  let charsOf (text : String) : List Char := text.toList.filter (· ≠ '\x00')
  let tell (text : Unit → List Char) : Act Unit := do
    if (← get).has 'v' then complain (String.ofList (text ()))
  let status ← repeated (fun (p : Progress) => do
    let p ← p.ask engine isPart
    let reader := p.reader
    match ← readCommands reader with
    | .error (.malformed line message) =>
      tell fun _ => upToLine (line + 1 - reader.line) reader.chars
      askOn engine isPart (line - reader.line)
      return .inl (← p.recover isPart (refuseScript line message))
    | .error .unfinished =>
      let block := charsOf (← nextBlock)
      let chars := reader.chars ++ block
      return .inl { p with reader := { reader with chars, mayGrow := !block.isEmpty } }
    | .ok ((cmd, isOver), after) =>
      if !isPart then modify fun s => { s with reachedOutside := s.reached }
      tell fun _ => reader.chars.take (reader.chars.length - after.chars.length)
      let ended := if after.isAtEnd then 0 else 1
      askOn engine isPart (after.line - reader.line - ended)
      if isOver then
        if ← p.leaves isPart then return .inr p.status
        else return .inl { p with isAsked := false, endings := p.endings + 1 }
      else
        let p := { p with reader := after, isAsked := false }
        let p ← p.recover isPart do
          engine.eval cmd {}
          let s ← get
          return { p with status := if cmd.isSome then s.status else p.status, endings := 0 }
        let s ← get
        match s.skip with
        | .none => return .inl p
        | .giveBack _ =>
          set { s with skip := .none }
          return .inr p.status
        | _ => return .inr p.status) Task.endless
    { reader := { chars := charsOf start, mayGrow := true }
      status := if isPart then 0 else status }
  modify fun s => { s with status, reached }

end Exemplar.Shell
