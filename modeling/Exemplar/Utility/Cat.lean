/-
Exemplar.Utility.Cat — joining files: `cat`.

Without options bytes go through as they are. With options each byte is looked at: lines may be
numbered, empty ones dropped after another, their ends marked, and bytes shown that cannot be
printed.

  §1 views
  §2 bytes
  §3 files
-/
import Exemplar.Utility.Basic

namespace Exemplar.Utility.Cat

/-! ## §1 Views -/

/-- What is to be shown. -/
structure View where
  numbers : Bool := false
  /-- Only lines that are not empty are numbered. -/
  skipsEmpty : Bool := false
  /-- Of empty lines in a row only one is shown. -/
  squeezes : Bool := false
  marksEnds : Bool := false
  marksTabs : Bool := false
  marksOthers : Bool := false

/-- Whether bytes go through as they are. -/
def View.isPlain (v : View) : Bool :=
  !(v.numbers || v.squeezes || v.marksEnds || v.marksTabs || v.marksOthers)

/-- Where in the lines of all files the output is. -/
structure Place where
  /-- How many line ends came last: none inside of a line, and three for more than two. -/
  ends : Nat := 1
  line : Nat := 0
  /-- Whether a carriage return came last and is not shown yet. -/
  returns : Bool := false

/-! ## §2 Bytes -/

/-- The number of a line as it stands before it. -/
def numberText (n : Nat) : Bytes :=
  let digits := toString n
  Octets.bytes (String.ofList (List.replicate (6 - digits.length) ' ') ++ digits ++ "\t")

/-- A byte that is no line end, as it is shown. -/
def shown (v : View) (b : UInt8) : Bytes :=
  let low (b : UInt8) : Bytes :=
    if b < 32 then [94, b + 64] else if b = 127 then [94, 63] else [b]
  if b = 9 then (if v.marksTabs then [94, 73] else [9])
  else if !v.marksOthers then [b]
  else if b < 128 then low b
  else [77, 45] ++ low (b - 128)

/-- Shows a byte; what is to be written comes before `out`, the last byte first. -/
def feed (v : View) (state : Place × Bytes) (b : UInt8) : Place × Bytes :=
  let (place, out) := state
  if b = 10 then
    let ends := min (place.ends + 1) 3
    if v.squeezes && 3 ≤ ends then ({ place with ends }, out)
    else
      let isEmpty := 2 ≤ ends
      let numbered := isEmpty && v.numbers && !v.skipsEmpty
      let line := if numbered then place.line + 1 else place.line
      let out := if numbered then (numberText line).reverse ++ out else out
      let out := if place.returns then 77 :: 94 :: out else out
      let out := if v.marksEnds then 36 :: out else out
      ({ ends, line, returns := false }, 10 :: out)
  else
    let out := if place.returns then 13 :: out else out
    let numbered := 1 ≤ place.ends && v.numbers
    let line := if numbered then place.line + 1 else place.line
    let out := if numbered then (numberText line).reverse ++ out else out
    if b = 13 && v.marksEnds && !v.marksOthers then ({ ends := 0, line, returns := true }, out)
    else ({ ends := 0, line, returns := false }, (shown v b).reverse ++ out)

/-! ## §3 Files -/

/-- Writes bytes, or gives up. -/
def put (bytes : Bytes) : Tool Unit := do
  match ← task (Task.writeAll 1 bytes) with
  | .ok _ => pure ()
  | .error errno =>
    grumble ("write error: " ++ errno.text)
    quit 1

/-- Whether two descriptors lead to one file, and what is read from the first would be written
there. -/
def isOwnOutput (descriptor : Nat) : Tool Bool :=
  task (Task.view fun pid k =>
    match k.opening? pid descriptor, k.opening? pid 1 with
    | some (_, input), some (_, output) =>
      match input.target, output.target with
      | .file a, .file b => a = b && input.position < (k.contentAt a).length
      | _, _ => false
    | _, _ => false)

/-- Whether bytes go straight from one file to another: both descriptors lead to files, and what is
written may be written and does not go to the end of one. -/
def isDirect (descriptor : Nat) : Tool Bool :=
  let isFile (opening? : Option (Nat × Opening)) (isRight : Mode → Bool) : Bool :=
    match opening? with
    | some (_, opening) => match opening.target with
      | .file _ => isRight opening.mode
      | _ => false
    | none => false
  task (Task.view fun pid k =>
    isFile (k.opening? pid descriptor) (fun _ => true) &&
      isFile (k.opening? pid 1) fun mode => mode.writes && !mode.appends)

/-- Tells what went wrong with an operand. -/
def tell (operand : String) (reason : String) : Tool Unit := do
  grumble ((← shownBefore operand) ++ ": " ++ reason)
  noteStatus 1

/-- Writes out what a descriptor leads to. Where bytes go straight to a file, not being able to
write them is a fault of the operand. -/
def copy (v : View) (operand : String) (descriptor : Nat) (place : Place) : Tool Place := do
  let isDirect ← isDirect descriptor
  repeated (fun (place : Place) => do
    match ← task (Task.read descriptor 131072) with
    | .error errno =>
      tell operand errno.text
      pure (.inr place)
    | .ok [] => pure (.inr place)
    | .ok bytes =>
      if v.isPlain && isDirect then
        match ← task (Task.writeAll 1 bytes) with
        | .ok _ => pure (.inl place)
        | .error errno =>
          tell operand errno.text
          pure (.inr place)
      else if v.isPlain then
        put bytes
        pure (.inl place)
      else
        let (place, out) := bytes.foldl (feed v) (place, [])
        put out.reverse
        pure (.inl place)) Task.endless place

/-- Writes out all operands. -/
def copyAll (v : View) : List String → Place → Tool Place
  | [], place => return place
  | operand :: rest, place => do
    match ← openOperand operand with
    | .error errno =>
      tell operand errno.text
      copyAll v rest place
    | .ok descriptor =>
      if ← isOwnOutput descriptor then
        tell operand "input file is output file"
        closeOperand operand descriptor
        copyAll v rest place
      else
        let place ← copy v operand descriptor place
        closeOperand operand descriptor
        copyAll v rest place

/-- The options. -/
def spec : OptionSpec where
  bare := "benstuvAET"
  long := [("number-nonblank", 'b'), ("number", 'n'), ("squeeze-blank", 's'),
    ("show-nonprinting", 'v'), ("show-ends", 'E'), ("show-tabs", 'T'), ("show-all", 'A')]
  manual? := some .cat

/-- Joins files. -/
def run (args : List String) : Tool Unit := do
  let parsed ← parse spec args
  let any (letters : String) : Bool := letters.toList.any parsed.has
  let v : View :=
    { numbers := any "bn", skipsEmpty := any "b", squeezes := any "s", marksEnds := any "eAE",
      marksTabs := any "tAT", marksOthers := any "etvA" }
  if !(← isOpen 1) then
    grumble ("standard output: " ++ Errno.badDescriptor.text)
    quit 1
  let operands := orInput parsed.operands
  let place ← copyAll v operands {}
  if place.returns then put [13]
  if operands.contains "-" && !(← isOpen 0) then
    grumble ("closing standard input: " ++ Errno.badDescriptor.text)
    quit 1

end Exemplar.Utility.Cat
