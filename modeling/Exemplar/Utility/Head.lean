/-
Exemplar.Utility.Head — the first part of files: `head`.

  §1 extents
  §2 parts of files
  §3 files
-/
import Exemplar.Utility.Basic

namespace Exemplar.Utility.Head

/-! ## §1 Extents -/

/-- How much is written: so many lines or bytes, or all but so many. -/
structure Extent where
  bytes : Bool := false
  count : Nat := 10
  allBut : Bool := false

/-- The factor that letters after a number stand for. -/
def factor? (letters : String) : Option Nat :=
  let byLetter (c : Char) : Option Nat :=
    let c := if c = 'k' || c = 'm' then c.toUpper else c
    (['K', 'M', 'G', 'T', 'P', 'E', 'Z', 'Y'].findIdx? (· = c)).map (· + 1)
  let power (base n : Nat) : Nat := (List.replicate n base).foldl (· * ·) 1
  if letters = "" then some 1
  else if letters = "b" then some 512
  else match letters.toList with
    | [c] => (byLetter c).map (power 1024)
    | [c, 'B'] | [c, 'D'] => (byLetter c).map (power 1000)
    | [c, 'i', 'B'] => (byLetter c).map (power 1024)
    | _ => none

/-- Reads a number of lines or bytes. -/
def readCount (bytes : Bool) (text : String) : Tool Extent := do
  let (allBut, cs) := match text.toList with
    | '-' :: cs => (true, cs)
    | cs => (false, cs)
  let shown ← shownArgument (String.ofList cs)
  let refuseCount (why : String) : Tool Extent := do
    grumble ("invalid number of " ++ (if bytes then "bytes" else "lines") ++ ": " ++ shown ++ why)
    quit 1
  let (size, letters) := match Number.scan (some 10) cs with
    | some ⟨false, size, rest⟩ => (some size, rest)
    | some ⟨true, _, _⟩ => (none, [])
    | none => (if cs.isEmpty then none else some 1, cs)
  match size, factor? (String.ofList letters) with
  | some size, some factor =>
    if 0xFFFFFFFFFFFFFFFF < size * factor then refuseCount (": " ++ Errno.overflow.text)
    else return { bytes, count := size * factor, allBut }
  | _, _ => refuseCount ""

/-! ## §2 Parts of files -/

/-- How many bytes are read at a time. -/
def readSize : Nat := 8192

/-- The bytes up to the end of the `n`th line, and how many lines are left to come. -/
def takeLines (last : UInt8) : Nat → Bytes → Bytes → Bytes × Nat
  | 0, acc, _ => (acc.reverse, 0)
  | n, acc, [] => (acc.reverse, n)
  | n + 1, acc, b :: rest => takeLines last (if b = last then n else n + 1) (b :: acc) rest

/-- Complains about an operand that cannot be read. -/
def refuseRead (name : String) (errno : Errno) : Tool Unit := do
  grumble ("error reading " ++ (← quotedName name) ++ ": " ++ errno.text)
  noteStatus 1

/-- Writes bytes. That they cannot be written out, where it comes to that, ends all. -/
def sayBytes (bytes : Bytes) : Tool Unit := do
  let before := (← get).failure
  modify fun s => { s with failure := none }
  say (Octets.ofBytes bytes)
  match (← get).failure with
  | none => modify fun s => { s with failure := before }
  | some errno =>
    modify fun s => { s with failure := none }
    grumble ("error writing " ++ (← quotedName "standard output") ++ ": " ++ errno.text)
    quit 1

/-- Writes the first lines. Of a file, what was read too much is left to others. -/
def firstLines (last : UInt8) (name : String) (descriptor count : Nat) : Tool Unit :=
  repeated (fun (count : Nat) => do
    if count = 0 then pure (.inr ())
    else match ← task (Task.read descriptor readSize) with
      | .error errno =>
        refuseRead name errno
        pure (.inr ())
      | .ok [] => pure (.inr ())
      | .ok bytes =>
        let (taken, left) := takeLines last count [] bytes
        sayBytes taken
        if left = 0 then
          let _ ← task (Task.act fun pid k => k.rewind pid descriptor (bytes.length - taken.length))
        pure (.inl left)) Task.endless count

/-- Writes the first bytes. -/
def firstBytes (name : String) (descriptor count : Nat) : Tool Unit :=
  repeated (fun (count : Nat) => do
    if count = 0 then pure (.inr ())
    else match ← task (Task.read descriptor (min count readSize)) with
      | .error errno =>
        refuseRead name errno
        pure (.inr ())
      | .ok [] => pure (.inr ())
      | .ok bytes =>
        sayBytes bytes
        pure (.inl (count - bytes.length))) Task.endless count

/-- Writes all but the last lines or bytes. -/
def allButLast (last : UInt8) (name : String) (descriptor : Nat) (extent : Extent) : Tool Unit := do
  if !(← isOpen descriptor) then
    grumble ("cannot fstat " ++ (← quotedName name) ++ ": " ++ Errno.badDescriptor.text)
    noteStatus 1
    return
  let (chunks, failure) ← task (Task.readAll descriptor)
  let bytes := chunks.flatten
  match failure with
  | some errno => refuseRead name errno
  | none => pure ()
  if extent.bytes then sayBytes (bytes.take (bytes.length - extent.count))
  else
    let lines := (bytes.filter (· = last)).length
    let isOpenEnded := bytes.getLast?.any (· ≠ last)
    let total := if isOpenEnded then lines + 1 else lines
    if extent.count = 0 then sayBytes bytes
    else sayBytes (takeLines last (total - extent.count) [] bytes).1

/-! ## §3 Files -/

/-- Refuses a letter that makes no sense after a number. -/
def refuseTrailing {α : Type} (c : Char) : Tool α := do
  grumble ("invalid trailing option -- " ++ String.singleton c)
  giveUp

/-- The options. Digits are none, but are refused in a way of their own. -/
def spec : OptionSpec where
  bare := "qvz0123456789"
  withArgument := "cn"
  check letter argument := do
    if letter = 'c' || letter = 'n' then
      let _ ← readCount (letter = 'c') argument
    if letter.isDigit then refuseTrailing letter
  long := [("bytes", 'c'), ("lines", 'n'), ("quiet", 'q'), ("silent", 'q'), ("verbose", 'v'),
    ("zero-terminated", 'z')]
  manual? := some .head

/-- Reads a first argument of the old form, a number with letters after it: the extent and the
options that it stands for. -/
def oldForm? (arg : String) : Option (String × List Char) :=
  match arg.toList with
  | '-' :: c :: cs =>
    if c.isDigit then
      let (digits, letters) := (c :: cs).span Char.isDigit
      some (String.ofList digits, letters)
    else none
  | _ => none

/-- Reads the letters of the old form. -/
def readOldForm (digits : String) :
    List Char → (unit : String) → (bytes : Bool) → Parsed → Tool (Extent × Parsed)
  | [], unit, bytes, parsed => do return (← readCount bytes (digits ++ unit), parsed)
  | c :: cs, unit, bytes, parsed => do
    if c = 'c' then readOldForm digits cs unit true parsed
    else if c = 'b' || c = 'k' || c = 'm' then
      readOldForm digits cs (String.singleton c) true parsed
    else if c = 'l' then readOldForm digits cs unit false parsed
    else if c = 'q' || c = 'v' || c = 'z' then
      readOldForm digits cs unit bytes (parsed.addOption c "")
    else refuseTrailing c

/-- Writes the first part of an operand, under its name if that is asked for; gives whether it could
be opened. -/
def writePart (last : UInt8) (extent : Extent) (named isFirst : Bool) (operand : String) :
    Tool Bool := do
  let name := if operand = "-" then "standard input" else operand
  match ← openOperand operand with
  | .error errno =>
    grumble ("cannot open " ++ (← quotedName operand) ++ " for reading: " ++ errno.text)
    noteStatus 1
    return false
  | .ok descriptor =>
    if named then say ((if isFirst then "" else "\n") ++ "==> " ++ name ++ " <==\n")
    if extent.allBut then allButLast last name descriptor extent
    else if extent.bytes then firstBytes name descriptor extent.count
    else firstLines last name descriptor extent.count
    closeOperand operand descriptor
    return true

/-- Writes the first part of each operand. -/
def writeAll (last : UInt8) (extent : Extent) (named : Bool) :
    (isFirst : Bool) → List String → Tool Unit
  | _, [] => pure ()
  | isFirst, operand :: rest => do
    let isOpened ← writePart last extent named isFirst operand
    writeAll last extent named (isFirst && !isOpened) rest

/-- The extent that the last option asks for. -/
def extentOf (start : Extent) : List (Char × String) → Tool Extent
  | [] => return start
  | (letter, text) :: rest => do
    let extent ← if letter = 'c' then readCount true text
      else if letter = 'n' then readCount false text
      else pure start
    extentOf extent rest

/-- The greatest size of a file. -/
def greatestSize : Nat := 0x7FFFFFFFFFFFFFFF

/-- Refuses to leave more bytes out than a file can have. -/
def checkExtent (extent : Extent) : Tool Unit := do
  if extent.bytes && extent.allBut && greatestSize < extent.count then
    grumble ("invalid number of bytes: " ++ (← shownArgument (toString extent.count)) ++ ": " ++
      Errno.overflow.text)
    quit 1

/-- Writes the first part of files. -/
def run (args : List String) : Tool Unit := do
  let (start, old, args) ← match args with
    | arg :: rest =>
      match oldForm? arg with
      | some (digits, letters) => do
        let (extent, parsed) ← readOldForm digits letters "" false {}
        pure (extent, parsed.options, rest)
      | none => pure ({}, [], args)
    | [] => pure ({}, [], [])
  let parsed ← parse spec args
  let options := old ++ parsed.options
  let extent ← extentOf start options
  checkExtent extent
  let last : UInt8 := if options.any (·.1 = 'z') then 0 else 10
  let operands := orInput parsed.operands
  let named := match (options.filter fun o => o.1 = 'q' || o.1 = 'v').getLast? with
    | some (letter, _) => letter = 'v'
    | none => 1 < operands.length
  writeAll last extent named true operands
  if operands.contains "-" && !(← isOpen 0) then
    grumble ("-: " ++ Errno.badDescriptor.text)
    noteStatus 1

end Exemplar.Utility.Head
