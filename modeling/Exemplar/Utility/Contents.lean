/-
Exemplar.Utility.Contents — names of files and what directories hold: `ls`.

  §1 writing
  §2 directories
  §3 operands
-/
import Exemplar.Utility.Contents.Lines

namespace Exemplar.Utility.Contents

/-! ## §1 Writing -/

/-- How far the writing of lists has come. -/
structure Progress where
  /-- Whether a directory was named before. -/
  hasNamed : Bool := false
  /-- Whether any colour was used. -/
  hasColour : Bool := false

/-- Writes pieces. The first colour of all comes after the sequence that ends colours. -/
def writePieces (s : Settings) (pieces : List Piece) (progress : Progress) : Tool Progress := do
  let reset := (s.palette?.map Palette.reset).getD ""
  let (texts, hasColour) := pieces.foldl (fun (texts, hasColour) piece =>
    match piece with
    | .plain text => (text :: texts, hasColour)
    | .colour text => ((if hasColour then text else reset ++ text) :: texts, true))
    ([], progress.hasColour)
  say (String.join texts.reverse)
  return { progress with hasColour }

/-- Entries in their order. -/
def sorted (s : Settings) (entries : List Entry) : List Entry :=
  let setting : Setting := { settings := s, entries }
  inOrder s setting.nameWidth entries

/-! ## §2 Directories -/

/-- How deep directories are listed. -/
def depthLimit : Nat := 1000

/-- The line that tells how much room entries take. -/
def totalLine (s : Settings) (entries : List Entry) : String :=
  if s.inLines = .long || s.hasBlocks then
    let room := ((entries.filter (·.isKnown)).map Entry.room).foldl (· + ·) 0
    "total " ++ s.blockScale.shown room ++ s.lineEnding
  else ""

/-- Writes what a directory holds, under its name if that is asked for; with the option for that,
also what the directories in it hold. A directory that is one of those `above` it is not gone
into. -/
def writeDirectory (s : Settings) :
    (depth : Nat) → (above : List Location) → (isNamed : Bool) → Entry → Progress → Tool Progress
  | 0, _, _, _, progress => return progress
  | depth + 1, above, isNamed, dir, progress => do
    if s.recursive && above.contains dir.location then
      grumble ((← shownBefore dir.name) ++ ": not listing already-listed directory")
      noteStatus 2
      return progress
    let mut progress := progress
    if isNamed then
      say ((if progress.hasNamed then "\n" else "") ++ s.heading dir.name ++ ":\n")
      progress := { progress with hasNamed := true }
    let found ← entriesIn s dir
    let entries := sorted s found
    say (totalLine s entries)
    progress ← writePieces s (linesOf { settings := s, entries } entries) progress
    if s.recursive then
      for e in entries do
        if e.isDirectory && e.name ≠ "." && e.name ≠ ".." then
          progress ← writeDirectory s depth (dir.location :: above) true
            { e with name := joined dir.name e.name } progress
    return progress

/-! ## §3 Operands -/

/-- The entries of operands; what cannot be found is told. -/
def findOperands (s : Settings) : List String → Tool (List Entry)
  | [] => return []
  | operand :: rest => do
    match ← entryOf s operand with
    | .ok e => return e :: (← findOperands s rest)
    | .error errno =>
      grumble ("cannot access " ++ (← quotedName operand) ++ ": " ++ errno.text)
      noteStatus 2
      findOperands s rest

/-- Lists files and what directories hold. -/
def run (args : List String) : Tool Unit := do
  modify fun s => { s with failureStatus := 2 }
  let (s, operands) ← settingsOf args
  let isOpened (e : Entry) : Bool := e.isDirectory && !s.isItself
  let found ← findOperands s (if operands.isEmpty then ["."] else operands)
  let hasQuotes := (operands ++ found.map (·.name)).any s.changes
  let entries := sorted s found
  let files := entries.filter fun e => !isOpened e
  let dirs := entries.filter isOpened
  let setting : Setting := { settings := s, entries, hasQuotes }
  let mut progress ← writePieces s (linesOf setting files) {}
  if !files.isEmpty && !dirs.isEmpty then say "\n"
  let isNamed := !files.isEmpty || 1 < operands.length || 1 < dirs.length || s.recursive
  for dir in dirs do
    progress ← writeDirectory s depthLimit [] isNamed dir progress
  if progress.hasColour then say ((s.palette?.map Palette.closing).getD "")

end Exemplar.Utility.Contents
