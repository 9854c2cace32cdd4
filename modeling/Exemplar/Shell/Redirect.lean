/-
Exemplar.Shell.Redirect — where the descriptors of a command lead.

All names of files are expanded before anything is opened. Then the redirections are made in order;
what a descriptor led to before is kept under a number that no script can name, and is put back
after the command.

  §1 expanded redirections
  §2 opening
  §3 making redirections and taking them back
-/
import Exemplar.Shell.Engine

namespace Exemplar.Shell

/-! ## §1 Expanded redirections -/

/-- A redirection with its words expanded. -/
inductive Change where
  | file (descriptor : Nat) (access : Access) (path : String)
  /-- To where another descriptor leads, or to nowhere. -/
  | copy (descriptor : Nat) (source : Option Nat)
  | document (descriptor : Nat) (number : Nat) (expands : Bool)

/-- The descriptor that is changed. -/
def Change.descriptor : Change → Nat
  | .file descriptor _ _ => descriptor
  | .copy descriptor _ => descriptor
  | .document descriptor _ _ => descriptor

/-- Gives up at a redirection to no descriptor. -/
def refuseDescriptor {α : Type} : Act α := do
  modify fun s => { s with line := s.reached }
  fail "Syntax error: Bad fd number"

/-- Expands the words of a redirection. -/
def prepare (engine : Engine) : Redirection → Act Change
  | .file descriptor access path => do
    return .file descriptor access (← expandText (capture engine) .whole path)
  | .like descriptor word => do
    match (← expandText (capture engine) .whole word).toList with
    | ['-'] => return .copy descriptor none
    | [d] =>
      if d.isDigit then return .copy descriptor (some (d.toNat - '0'.toNat)) else refuseDescriptor
    | _ => refuseDescriptor
  | .copy descriptor source => return .copy descriptor source
  | .document descriptor number expands => return .document descriptor number expands

/-! ## §2 Opening -/

/-- Why a file cannot be opened: `missing` stands for an error that only says that there is no such
path. -/
def whyNot (errno : Errno) (missing : String) : String :=
  if errno = .noEntry || errno = .notDirectory then missing else errno.text

/-- Gives up because a file cannot be opened. -/
def refuseFile {α : Type} (makes : Bool) (path : String) (errno : Errno) : Act α :=
  if makes then fail ("cannot create " ++ path ++ ": " ++ whyNot errno "Directory nonexistent")
  else fail ("cannot open " ++ path ++ ": " ++ whyNot errno "No such file")

/-- Opens a file. -/
def openIn (mode : Mode) (path : String) : Act Nat := do
  match ← task (Task.openFile path mode) with
  | .ok number => return number
  | .error errno => refuseFile mode.makes path errno

/-- The first number that no script can name. -/
def firstKept : Nat := 10

/-- Moves where a descriptor leads to a number that no script can name; gives that number. If there
is none, the descriptor leads nowhere. -/
def moveAway (descriptor : Nat) : Act (Except Errno Nat) := do
  let moved ← task (Task.act fun pid k => k.save pid descriptor firstKept)
  task (Task.close descriptor)
  return moved

/-- Gives up because a descriptor cannot lead where it should. -/
def refuseLead {α : Type} (descriptor : Nat) (errno : Errno) : Act α :=
  fail (toString descriptor ++ ": " ++ errno.text)

/-- Opens a script, at a descriptor that no script can name. -/
def openScript (path : String) : Act Nat := do
  let number ← openIn .read path
  if firstKept ≤ number then return number
  match ← moveAway number with
  | .ok moved => return moved
  | .error errno => refuseLead number errno

/-- Opens a file for output, but not one that stands there already. -/
def openSparing (path : String) : Act Nat := do
  match ← task (Task.stat path) with
  | .error _ => openIn { writes := true, makes := true, fresh := true } path
  | .ok (location, .file _) =>
    if (Kernel.device? location).isNone then refuseFile true path .fileExists
    else openIn { writes := true } path
  | .ok _ => openIn { writes := true } path

/-- Opens a document, from which its text can be read. The pipe for it is there already while the
text is expanded. -/
def openDocument (engine : Engine) (number : Nat) (expands : Bool) : Act Nat := do
  let (reading, writing) ← makePipe { capacity := none }
  let word := ((← get).documents.lookup number).getD []
  let text ← if expands then expandText (capture engine) { quoted := true } word
    else pure (String.join (word.map fun
      | .text s _ => s
      | _ => ""))
  let _ ← task (Task.writeAll writing (Octets.bytes text))
  task (Task.close writing)
  return reading

/-- What a descriptor is to lead to. -/
inductive Lead where
  /-- What it leads to. -/
  | stays
  | nowhere
  /-- What another descriptor leads to. -/
  | like (source : Nat)
  /-- What was opened for it, which has a descriptor of its own. -/
  | opened (number : Nat)

/-- Opens what a descriptor is to lead to. -/
def openChange (engine : Engine) : Change → Act Lead
  | .file _ access path => do
    match access with
    | .input => return .opened (← openIn .read path)
    | .inputOutput =>
      return .opened (← openIn { reads := true, writes := true, makes := true } path)
    | .append => return .opened (← openIn .append path)
    | .clobber => return .opened (← openIn .write path)
    | .output =>
      let isSparing := (← get).has 'C'
      return .opened (← if isSparing then openSparing path else openIn .write path)
  | .copy _ none => return .nowhere
  | .copy descriptor (some source) => return if source = descriptor then .stays else .like source
  | .document _ number expands => return .opened (← openDocument engine number expands)

/-! ## §3 Making redirections and taking them back -/

/-- What descriptors led to before: the numbers under which that is kept, none if they led
nowhere. -/
abbrev Kept := List (Nat × Option Nat)

/-- Keeps what a descriptor leads to before it leads elsewhere, unless that was done before. If
there is no number for that, the descriptor leads nowhere. -/
def keepFor (descriptor : Nat) (lead : Lead) (kept : Kept) : Act Kept := do
  let isNew : Bool := match lead with
    | .stays => false
    | _ => (kept.lookup descriptor).isNone
  let isInPlace : Bool := match lead with
    | .opened number => number = descriptor
    | _ => false
  if !isNew then return kept
  else if isInPlace then return (descriptor, none) :: kept
  else match ← moveAway descriptor with
    | .ok number => return (descriptor, some number) :: kept
    | .error errno =>
      if errno = .badDescriptor then return (descriptor, none) :: kept
      else refuseLead descriptor errno

/-- Leads a descriptor to where another one leads. -/
def leadTo (source descriptor : Nat) : Act Unit := do
  match ← task (Task.duplicate source descriptor) with
  | .ok _ => pure ()
  | .error errno => refuseLead source errno

/-- Leads a descriptor to what it is to lead to. -/
def follow (descriptor : Nat) : Lead → Act Unit
  | .stays => pure ()
  | .nowhere => task (Task.close descriptor)
  | .like source => leadTo source descriptor
  | .opened number => do
    if number ≠ descriptor then
      leadTo number descriptor
      task (Task.close number)

/-- Makes redirections in order, up to the first that cannot be made; what was led to is kept if it
`keeps`, also where one cannot be made. -/
def makeAll (engine : Engine) (keeps : Bool) : List Change → Kept → Act (Kept × Except Halt Unit)
  | [], kept => return (kept, .ok ())
  | change :: rest, kept => do
    match ← attempt (openChange engine change) with
    | .error halt => return (kept, .error halt)
    | .ok lead =>
      let newlyKept ← if keeps then attempt (keepFor change.descriptor lead kept)
        else pure (.ok kept)
      match newlyKept with
      | .error halt => return (kept, .error halt)
      | .ok kept =>
        match ← attempt (follow change.descriptor lead) with
        | .error halt => return (kept, .error halt)
        | .ok _ => makeAll engine keeps rest kept

/-- Leads descriptors to where they led before. -/
def putBack : Kept → Act Unit
  | [] => pure ()
  | (descriptor, number?) :: rest => do
    match number? with
    | none => task (Task.close descriptor)
    | some number =>
      let _ ← task (Task.duplicate number descriptor)
      task (Task.close number)
    putBack rest

/-- Forgets where descriptors led before. -/
def dropKept : Kept → Act Unit
  | [] => pure ()
  | (_, number?) :: rest => do
    match number? with
    | none => pure ()
    | some number => task (Task.close number)
    dropKept rest

/-- Makes redirections that a command can do without: gives whether they could be made, and what was
kept. -/
def tryRedirect (engine : Engine) (redirs : List Redirection) : Act (Kept × Bool) := do
  let changes ← redirs.mapM (prepare engine)
  match ← makeAll engine true changes [] with
  | (kept, .ok _) => return (kept, true)
  | (kept, .error .failed) => return (kept, false)
  | (kept, .error halt) =>
    putBack kept
    throw halt

/-- Makes redirections for good. -/
def makeForGood (engine : Engine) (changes : List Change) : Act Unit := do
  match ← makeAll engine false changes [] with
  | (_, .ok _) => pure ()
  | (_, .error halt) => throw halt

end Exemplar.Shell
