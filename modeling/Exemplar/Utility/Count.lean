/-
Exemplar.Utility.Count — counting lines, words and bytes: `wc`.

  §1 counts
  §2 widths
  §3 files
-/
import Exemplar.Utility.Basic

namespace Exemplar.Utility.Count

/-! ## §1 Counts -/

/-- What is counted. -/
structure Counts where
  lines : Nat := 0
  words : Nat := 0
  chars : Nat := 0
  bytes : Nat := 0
  /-- The length of the longest line. -/
  longest : Nat := 0

/-- How far the counting of a file has come: also where in a line it is, whether in a word, and in
which character. -/
structure Progress where
  counts : Counts := {}
  column : Nat := 0
  inWord : Bool := false
  pending : Option Utf8.Open := none

/-- Whether a character is a blank at which no line is to be broken. -/
def isUnbreakable (c : Char) : Bool := ['\u00A0', '\u2007', '\u202F', '\u2060'].contains c

/-- Whether a character that takes room is white space. -/
def isWide (c : Char) : Bool :=
  let n := c.toNat
  !isUnbreakable c &&
    (n = 0x1680 || (0x2000 ≤ n && n ≤ 0x200A) || n = 0x205F || n = 0x3000)

/-- How text is read. -/
structure Reading where
  charset : Charset
  /-- Whether blanks at which no line is to be broken are parts of words. -/
  isStrict : Bool

/-- Whether a character that takes room parts words. -/
def Reading.parts (r : Reading) (c : Char) : Bool := isWide c || (!r.isStrict && isUnbreakable c)

/-- Ends a word, if one was begun. -/
def Progress.endWord (p : Progress) : Progress :=
  { p with
    counts := { p.counts with words := p.counts.words + (if p.inWord then 1 else 0) }
    inWord := false }

/-- Ends a line for its length. -/
def Progress.endLine (p : Progress) : Progress :=
  { p with counts := { p.counts with longest := max p.counts.longest p.column }, column := 0 }

/-- Counts the place of a character among lines and words. One that cannot be printed is no part of
a word, and has no width. -/
def Progress.place (r : Reading) (p : Progress) (c : Char) : Progress :=
  if c = '\n' then
    let p := p.endLine.endWord
    { p with counts := { p.counts with lines := p.counts.lines + 1 } }
  else if c = '\r' || c = '\x0c' then p.endLine.endWord
  else if c = '\t' then { p with column := p.column + (8 - p.column % 8) }.endWord
  else if c = ' ' then { p with column := p.column + 1 }.endWord
  else if c = '\x0b' then p.endWord
  else if Glyph.isPrintableChar c then
    let p := { p with column := p.column + Text.cellWidth c }
    if r.parts c then p.endWord else { p with inWord := true }
  else p

/-- Counts a character. -/
def Progress.char (r : Reading) (p : Progress) (c : Char) : Progress :=
  Progress.place r { p with counts := { p.counts with chars := p.counts.chars + 1 } } c

/-- Counts a byte. -/
def countByte (r : Reading) (p : Progress) (b : UInt8) : Progress :=
  let p := { p with counts := { p.counts with bytes := p.counts.bytes + 1 } }
  match r.charset with
  | .ascii =>
    if b < 128 then p.char r (Char.ofNat b.toNat)
    else { p with counts := { p.counts with chars := p.counts.chars + 1 } }
  | .utf8 =>
    let reading := Utf8.feed ⟨[], p.pending⟩ b
    reading.pieces.foldr (fun piece p =>
      match piece with
      | .char c => p.char r c
      | .broken => p) { p with pending := reading.pending }

/-- The counts at the end of a file. -/
def Progress.final (p : Progress) : Counts := p.endLine.endWord.counts

/-- The counts of two files together. -/
def Counts.add (a b : Counts) : Counts :=
  { lines := a.lines + b.lines, words := a.words + b.words, chars := a.chars + b.chars
    bytes := a.bytes + b.bytes, longest := max a.longest b.longest }

/-- The counts that letters ask for, in the order in which they are written. -/
def Counts.chosen (letters : List Char) (c : Counts) : List Nat :=
  let all := [('l', c.lines), ('w', c.words), ('m', c.chars), ('c', c.bytes), ('L', c.longest)]
  all.filterMap fun e => if letters.contains e.1 then some e.2 else none

/-! ## §2 Widths -/

/-- How many digits there is room for, given the sizes of the files that have one and whether there
are operands that do not. -/
def widthOf (sizes : List Nat) (hasOthers : Bool) : Nat :=
  max (toString (sizes.foldl (· + ·) 0)).length (if hasOthers then 7 else 1)

/-- The size of what an operand is: none if it is not there, and in it none if it has no size. -/
def sizeOf (operand : String) : Tool (Option (Option Nat)) :=
  task (Task.view fun pid k =>
    if operand = "-" then
      match k.opening? pid 0 with
      | some (_, opening) => match opening.target with
        | .file location => some (some (k.contentAt location).length)
        | _ => some none
      | none => none
    else match k.stat pid operand with
      | .ok (location, .file file) =>
        some (if (Kernel.device? location).isNone then some file.data.length else none)
      | .ok _ => some none
      | .error _ => none)

/-! ## §3 Files -/

/-- Counts what a descriptor leads to. -/
def countAll (name : String) (descriptor : Nat) : Tool Counts := do
  let reading : Reading := { charset := ← charset, isStrict := ← isStrict }
  let p ← repeated (fun (p : Progress) => do
    match ← task (Task.read descriptor 16384) with
    | .error errno =>
      grumble (name ++ ": " ++ errno.text)
      noteStatus 1
      pure (.inr p)
    | .ok [] => pure (.inr p)
    | .ok bytes => pure (.inl (bytes.foldl (countByte reading) p))) Task.endless {}
  return p.final

/-- Writes a line of counts. -/
def writeCounts (letters : List Char) (width : Nat) (name : String) (c : Counts) : Tool Unit := do
  let padded (n : Nat) : String :=
    let digits := toString n
    String.ofList (List.replicate (width - digits.length) ' ') ++ digits
  say (" ".intercalate ((c.chosen letters).map padded) ++ name ++ "\n")

/-- Counts an operand and writes the counts; they are none if it cannot be opened. -/
def countOperand (letters : List Char) (width : Nat) (operand : String) : Tool Counts := do
  match ← openOperand operand with
  | .error errno =>
    grumble ((← shownBefore operand) ++ ": " ++ errno.text)
    noteStatus 1
    return {}
  | .ok descriptor =>
    let c ← countAll (← shownBefore operand) descriptor
    closeOperand operand descriptor
    let name ← if operand.toList.contains '\n' then shownBefore operand else pure operand
    writeCounts letters width (" " ++ name) c
    return c

/-- Counts operands, and writes the counts of each and, if they are several, the total. A file in
which their names were listed is given as `list?`. -/
def countOperands (letters : List Char) (width : Nat) (list? : Option String)
    (operands : List String) : Tool Unit := do
  let mut total : Counts := {}
  for (operand, i) in operands.zipIdx do
    if list? = some "-" && operand = "-" then
      grumble ("when reading file names from stdin, no file name of " ++ (← quotedName "-") ++
        " allowed")
      noteStatus 1
    else if operand = "" then
      let place ← match list? with
        | some list => do pure ((← shownBefore list) ++ ":" ++ toString (i + 1) ++ ": ")
        | none => pure ""
      grumble (place ++ "invalid zero-length file name")
      noteStatus 1
    else total := total.add (← countOperand letters width operand)
  if 1 < operands.length then writeCounts letters width " total" total

/-- The names that a file lists, each with a byte zero after it, and whether it is an ordinary
file. -/
def namesIn (list : String) : Tool (List String × Bool) := do
  match ← openOperand list with
  | .error errno =>
    grumble ("cannot open " ++ (← quotedName list) ++ " for reading: " ++ errno.text)
    quit 1
  | .ok descriptor =>
    let size? ← sizeOf list
    let (chunks, failure) ← task (Task.readAll descriptor)
    match failure with
    | some errno =>
      grumble ((← shownBefore list) ++ ": read error: " ++ errno.text)
      noteStatus 1
    | none => pure ()
    let names := Text.split '\x00' (Octets.ofBytes chunks.flatten)
    let names := if names.getLast? = some "" then names.dropLast else names
    return (names, size?.bind id |>.isSome)

/-- The options. -/
def spec : OptionSpec where
  bare := "clwmL"
  withArgument := "\u0101"
  long := [("bytes", 'c'), ("chars", 'm'), ("lines", 'l'), ("words", 'w'), ("max-line-length", 'L'),
    ("files0-from", '\u0101')]
  manual? := some .wc

/-- Refuses operands where a file lists the names. -/
def refuseOperand {α : Type} (operand : String) : Tool α := do
  grumble ("extra operand " ++ (← quotedName operand))
  addLine "file operands cannot be combined with --files0-from"
  giveUp

/-- Counts lines, words and bytes. Each line that is written goes out at once. -/
def run (args : List String) : Tool Unit := do
  modify fun s => { s with room := 1 }
  let parsed ← parse spec args
  let list? := parsed.argument? '\u0101'
  let letters := (parsed.options.map (·.1)).filter (· ≠ '\u0101')
  let letters := if letters.isEmpty then ['l', 'w', 'c'] else letters
  let isSingle := (Counts.chosen letters {}).length = 1
  let (operands, isKnown) ← match list?, parsed.operands with
    | none, operands => pure (operands, true)
    | some list, [] => namesIn list
    | some _, operand :: _ => refuseOperand operand
  let sizes ← (if list?.isNone then orInput operands else operands).mapM sizeOf
  let width := if !isKnown || sizes.isEmpty || (sizes.length = 1 && isSingle) then 1
    else widthOf (sizes.filterMap fun s => s.getD none) (sizes.contains (some none))
  if operands.isEmpty && list?.isNone then
    let c ← countAll "'standard input'" 0
    writeCounts letters width "" c
  else countOperands letters width list? operands
  let readsInput := if list?.isNone then (orInput operands).contains "-"
    else list? ≠ some "-" && operands.contains "-"
  if readsInput && !(← isOpen 0) then
    grumble ("-: " ++ Errno.badDescriptor.text)
    noteStatus 1

end Exemplar.Utility.Count
