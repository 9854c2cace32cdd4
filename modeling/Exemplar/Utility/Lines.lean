/-
Exemplar.Utility.Lines — lines and paths as texts: `tee`, `tail`, `sort`, `seq`, `basename`,
`dirname` and `pwd`.

  §1 streams
  §2 lines
  §3 texts
-/
import Exemplar.Search
import Exemplar.Utility.Head

namespace Exemplar.Utility.Lines

/-! ## §1 Streams -/

/-- Opens files for writing; what cannot be opened is told. -/
def openAll (mode : Mode) : List String → Tool (List Nat)
  | [] => return []
  | operand :: rest => do
    match ← task (Task.openFile operand mode) with
    | .ok descriptor => return descriptor :: (← openAll mode rest)
    | .error errno =>
      grumble ((← shownBefore operand) ++ ": " ++ errno.text)
      noteStatus 1
      openAll mode rest

/-- Writes its input out and into files. -/
def tee (args : List String) : Tool Unit := do
  let parsed ← parse { bare := "aip", long := [("append", 'a')] } args
  let files ← openAll (if parsed.has 'a' then .append else .write) parsed.operands
  repeated (fun (_ : Unit) => do
    match ← task (Task.read 0 65536) with
    | .error errno =>
      grumble ("read error: " ++ errno.text)
      quit 1
    | .ok [] => pure (.inr ())
    | .ok bytes =>
      for descriptor in 1 :: files do
        let _ ← task (Task.writeAll descriptor bytes)
      pure (.inl ())) Task.endless ()

/-- All that an operand holds, or nothing if it cannot be read, which is told. -/
def contentOf (operand : String) : Tool Bytes := do
  match ← openOperand operand with
  | .error errno =>
    grumble ("cannot open " ++ (← quotedName operand) ++ " for reading: " ++ errno.text)
    noteStatus 1
    return []
  | .ok descriptor =>
    let (chunks, failure) ← task (Task.readAll descriptor)
    closeOperand operand descriptor
    match failure with
    | some errno => Head.refuseRead (if operand = "-" then "standard input" else operand) errno
    | none => pure ()
    return chunks.flatten

/-! ## §2 Lines -/

/-- Writes the last lines or bytes. -/
def tail (args : List String) : Tool Unit := do
  let args := match args with
    | arg :: rest =>
      match arg.toList with
      | '-' :: c :: cs => if c.isDigit then "-n" :: String.ofList (c :: cs) :: rest else args
      | _ => args
    | [] => []
  let parsed ← parse
    { bare := "qvf", withArgument := "cn", long := [("bytes", 'c'), ("lines", 'n')] } args
  let isBytes := (parsed.argument? 'c').isSome
  let text := ((parsed.argument? 'c').or (parsed.argument? 'n')).getD "10"
  let isFromStart := text.front = '+'
  let extent ← Head.readCount isBytes text
  for operand in orInput parsed.operands do
    let bytes ← contentOf operand
    if isFromStart then
      let passed := extent.count - 1
      Head.sayBytes (bytes.drop (if isBytes then passed
        else (Head.takeLines 10 passed [] bytes).1.length))
    else if isBytes then Head.sayBytes (bytes.drop (bytes.length - extent.count))
    else
      let ends := (bytes.filter (· = 10)).length
      let total := if bytes.getLast?.any (· ≠ 10) then ends + 1 else ends
      Head.sayBytes (bytes.drop (Head.takeLines 10 (total - extent.count) [] bytes).1.length)

/-- The lines of some bytes; the last one need not be ended. -/
def linesOf (bytes : Bytes) : List Bytes :=
  let (done, current) := bytes.foldl (fun (done, current) b =>
    if b = 10 then (current.reverse :: done, []) else (done, b :: current))
    (([] : List Bytes), ([] : Bytes))
  (if current.isEmpty then done else current.reverse :: done).reverse

/-- Writes lines in order. -/
def sort (args : List String) : Tool Unit := do
  modify fun s => { s with failureStatus := 2 }
  let parsed ← parse { bare := "bdfgnru", withArgument := "kto" } args
  let chunks ← (orInput parsed.operands).mapM contentOf
  let value (line : Bytes) : Int :=
    match Number.scan (some 10) (Octets.ofBytes line).toList with
    | some n => n.signed.1
    | none => 0
  let le (a b : Bytes) : Bool :=
    if parsed.has 'n' && value a ≠ value b then value a < value b else a ≤ b
  let sorted := (chunks.flatMap linesOf).mergeSort le
  let sorted := if parsed.has 'r' then sorted.reverse else sorted
  let sorted := if parsed.has 'u' then sorted.eraseReps else sorted
  Head.sayBytes (sorted.flatMap (· ++ [10]))

/-- Writes numbers in a row. -/
def seq (args : List String) : Tool Unit := do
  let numbers := args.map fun arg => (arg, arg.toInt?)
  match numbers.find? (·.2.isNone) with
  | some (arg, _) => refuse ("invalid floating point argument: " ++ (← shownArgument arg))
  | none => pure ()
  let go (first step last : Int) : Tool Unit := do
    let isRow := if 0 < step then first ≤ last else last ≤ first && step ≠ 0
    if isRow then
      say (String.join ((List.range (((last - first).tdiv step).toNat + 1)).map fun (i : Nat) =>
        toString (first + step * (i : Int)) ++ "\n"))
  match numbers.filterMap (·.2) with
  | [last] => go 1 1 last
  | [first, last] => go first 1 last
  | [first, step, last] => go first step last
  | [] => refuse "missing operand"
  | _ => refuse ("extra operand " ++ (← shownArgument ((args[3]?).getD "")))

/-! ## §3 Texts -/

/-- A path without the slashes at its end. -/
def dropSlashes (cs : List Char) : List Char :=
  match (cs.reverse.dropWhile (· = '/')).reverse with
  | [] => cs.take 1
  | cs => cs

/-- Writes the last part of a path, without an ending if one is given. -/
def basename (args : List String) : Tool Unit := do
  match args with
  | [] => refuse "missing operand"
  | path :: rest =>
    let path := dropSlashes path.toList
    let last := if path = ['/'] then path else (path.reverse.takeWhile (· ≠ '/')).reverse
    let ending := (rest.head?.getD "").toList
    let isEnded := ending ≠ last && ending.isSuffixOf last
    say (String.ofList (if isEnded then last.take (last.length - ending.length) else last) ++ "\n")

/-- Writes paths without their last parts. -/
def dirname (args : List String) : Tool Unit := do
  if args.isEmpty then refuse "missing operand"
  for path in args do
    let path := dropSlashes path.toList
    let above := (path.reverse.dropWhile (· ≠ '/')).reverse
    say (if above.isEmpty then ".\n" else String.ofList (dropSlashes above) ++ "\n")

/-- The path of the directory that the process is in as the variable `PWD` has it, if it does: from
the root on, without dots, and leading there. -/
def logicalPath? : Tool (Option String) := do
  let path := ((← get).environment.lookup "PWD").getD ""
  let hasDots := (Text.split '/' path).any fun name => name = "." || name = ".."
  if path.front ≠ '/' || hasDots then return none
  let leadsHere ← task (Task.view fun pid k =>
    match k.stat pid path with
    | .ok (location, .directory) => decide (location = k.hereOf pid)
    | _ => false)
  return if leadsHere then some path else none

/-- Writes the path of the directory that the process is in. -/
def pwd (args : List String) : Tool Unit := do
  let parsed ← parse { bare := "LP", long := [("logical", 'L'), ("physical", 'P')] } args
  if !parsed.operands.isEmpty then grumble "ignoring non-option arguments"
  let isLogical ← match parsed.options.getLast? with
    | some (letter, _) => pure (decide (letter = 'L'))
    | none => isStrict
  let logical? ← if isLogical then logicalPath? else pure none
  match logical? with
  | some path => say (path ++ "\n")
  | none =>
    let path ← task (Task.view fun pid k => (k.hereOf pid).path)
    say (Octets.ofBytes path ++ "\n")

end Exemplar.Utility.Lines
