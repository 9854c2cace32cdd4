/-
Exemplar.Utility.Basic — what the standard programs have in common.

A utility collects what it writes and writes it out when it is much, before it complains, and at its
end. It ends with a status; that it could not write is told at the end.

  §1 utilities
  §2 writing and complaining
  §3 options
  §4 operands
-/
import Exemplar.Kernel.Process
import Exemplar.Number.Integer
import Exemplar.Utility.Manual
import Exemplar.Utility.Quoting

namespace Exemplar.Utility

/-! ## §1 Utilities -/

/-- What a running utility knows. -/
structure State where
  /-- The name under which it was called. -/
  name : String
  environment : List (String × String) := []
  /-- What was written and has not gone out yet, the last part first, and how long it is. -/
  pending : List String := []
  size : Nat := 0
  /-- How much is collected before it is written out. -/
  room : Nat := 4096
  /-- Why it could not write, if it could not. -/
  failure : Option Errno := none
  /-- The status that it ends with if it could not write. -/
  failureStatus : Nat := 1
  status : Nat := 0

/-- A course of a utility, which may end early. -/
abbrev Tool (α : Type) := ExceptT Unit (StateT State Task) α

/-- Does something as a process. -/
def task {α : Type} (t : Task α) : Tool α := ExceptT.lift (StateT.lift t)

/-- Notes that something went wrong. -/
def noteStatus (status : Nat) : Tool Unit := modify fun s => { s with status }

/-- Ends the utility with a status. -/
def quit {α : Type} (status : Nat) : Tool α := do
  noteStatus status
  throw ()

/-- Does something with a state again and again, until it gives a value. -/
def repeated {σ α : Type} (step : σ → Tool (σ ⊕ α)) : Nat → σ → Tool α
  | 0, _ => throw ()
  | fuel + 1, s => do
    match ← step s with
    | .inl s => repeated step fuel s
    | .inr a => pure a

/-- How the utility reads bytes. -/
def charset : Tool Charset := do
  let environment := (← get).environment
  return Charset.ofEnvironment fun name => environment.lookup name

/-- Whether the environment asks for strictness. -/
def isStrict : Tool Bool := do
  return ((← get).environment.lookup "POSIXLY_CORRECT").isSome

/-! ## §2 Writing and complaining -/

/-- A name between quotes. -/
def quotedName (name : String) : Tool String := do
  return Quoting.shown (← charset) .name [] name

/-- A name, with quotes if it needs them. -/
def shownName (name : String) : Tool String := do
  return Quoting.shown (← charset) .bareName [] name

/-- A name before a colon: one that has a colon itself needs quotes too. -/
def shownBefore (name : String) : Tool String := do
  return Quoting.shown (← charset) .bareName [':'] name

/-- An argument between the quotes of messages. -/
def shownArgument (arg : String) : Tool String := do
  return Quoting.shown (← charset) .message [] arg

/-- Writes out what was collected. -/
def flush : Tool Unit := do
  let s ← get
  if !s.pending.isEmpty then
    set { s with pending := [], size := 0 }
    match ← task (Task.writeAll 1 (Octets.bytes (String.join s.pending.reverse))) with
    | .ok _ => pure ()
    | .error errno => modify fun s => { s with failure := s.failure.or (some errno) }

/-- Writes a text. -/
def say (text : String) : Tool Unit := do
  if text ≠ "" then
    modify fun s => { s with pending := text :: s.pending, size := s.size + text.length }
    let s ← get
    if s.room ≤ s.size then flush

/-- Writes a message, after all that was written before. -/
def grumble (message : String) : Tool Unit := do
  flush
  let s ← get
  let _ ← task (Task.writeAll 2 (Octets.bytes (s.name ++ ": " ++ message ++ "\n")))

/-- Writes a line of a message as it is. -/
def addLine (line : String) : Tool Unit := do
  let _ ← task (Task.writeAll 2 (Octets.bytes (line ++ "\n")))

/-- Says where to read about the utility, and ends it. -/
def giveUp {α : Type} (status : Nat := 1) : Tool α := do
  addLine ("Try '" ++ (← get).name ++ " --help' for more information.")
  quit status

/-- Writes a message and where to read about the utility, and ends it. -/
def refuse {α : Type} (message : String) (status : Nat := 1) : Tool α := do
  grumble message
  giveUp status

/-- Whether a descriptor leads somewhere. -/
def isOpen (descriptor : Nat) : Tool Bool :=
  task (Task.view fun pid k => (k.opening? pid descriptor).isSome)

/-- Ends a utility: what was written goes out, and that this was not possible is told. The reason is
told only if it shows at the end, which it does again where the output is closed. -/
def finish : Tool Unit := do
  let hasFailed := (← get).failure.isSome
  modify fun s => { s with failure := none }
  flush
  let isClosed := !(← isOpen 1)
  let reason? := (← get).failure.or (if hasFailed && isClosed then some .badDescriptor else none)
  if reason?.isSome || hasFailed then
    grumble ("write error" ++ (reason?.map fun errno => ": " ++ errno.text).getD "")
    noteStatus (← get).failureStatus

/-- The process of a utility, given what it does with its arguments. -/
def program (run : List String → Tool Unit) : Executable := fun argv environment =>
  let whole : StateT State Task Unit := do
    let _ ← (run argv.tail).run
    let _ ← finish.run
  let start : State := { name := argv.head?.getD "", environment }
  whole.run start fun (_, s) => .turn fun _ _ => .ends (.exited (s.status % 256))

/-! ## §3 Options -/

/-- The options of a utility. -/
structure OptionSpec where
  /-- The letters of options without an argument. -/
  bare : String := ""
  /-- The letters of options with an argument. -/
  withArgument : String := ""
  /-- The letters of options without an argument whose names may have one. -/
  mayHaveArgument : String := ""
  /-- The argument that these have where none is given. -/
  implied : String := ""
  /-- The names of options, with the letters that mean the same. -/
  long : List (String × Char) := []
  /-- What is to be seen to as soon as an option is read, given its argument. -/
  check : Char → String → Tool Unit := fun _ _ => pure ()
  /-- Whether options may come after operands. -/
  mixes : Bool := true
  /-- The status where the options are wrong. -/
  status : Nat := 1
  /-- What is told where one of the two options asks for it that are the same for all utilities. -/
  manual? : Option Manual := none

/-- What the arguments of a utility come to: its options in order with their arguments, and its
operands. -/
structure Parsed where
  options : List (Char × String) := []
  operands : List String := []

namespace Parsed

/-- Whether an option was given. -/
def has (p : Parsed) (letter : Char) : Bool := p.options.any (·.1 = letter)

/-- The argument of an option, the last one if there are several. -/
def argument? (p : Parsed) (letter : Char) : Option String :=
  ((p.options.filter (·.1 = letter)).getLast?).map (·.2)

/-- Adds an option with its argument, which is empty if it has none. -/
def addOption (p : Parsed) (letter : Char) (argument : String) : Parsed :=
  { p with options := p.options ++ [(letter, argument)] }

/-- Adds operands. -/
def addOperands (p : Parsed) (operands : List String) : Parsed :=
  { p with operands := p.operands ++ operands }

end Parsed

/-- The letter of the option that asks how a utility is used; it cannot be typed. -/
def helpLetter : Char := '\u0200'

/-- The letter of the option that asks which version a utility is; it cannot be typed. -/
def versionLetter : Char := '\u0201'

/-- The names of all options, with the letters that mean the same. -/
def OptionSpec.names (spec : OptionSpec) : List (String × Char) :=
  if spec.manual?.isSome then spec.long ++ [("help", helpLetter), ("version", versionLetter)]
  else spec.long

/-- Tells what an option asks to be told about the utility, after which it ends. -/
def tellAbout (manual : Manual) (letter : Char) : Tool Unit := do
  if letter = helpLetter || letter = versionLetter then
    let name := (← get).name
    let lines := if letter = helpLetter then manual.help name else manual.version
    for line in lines do say (line ++ "\n")
    throw ()

/-- Reads an option by its name, which may be shortened as long as only one is meant. Gives its
letter, its argument and the arguments after it. -/
def readLong (spec : OptionSpec) (text : String) (rest : List String) :
    Tool (Char × String × List String) := do
  let (name, value) := text.toList.span (· ≠ '=')
  let name := String.ofList name
  let hits := spec.names.filter fun l => name.toList.isPrefixOf l.1.toList
  let exact := hits.filter (·.1 = name)
  let letters := (hits.map (·.2)).eraseDups
  match (if exact.isEmpty then hits else exact), exact.isEmpty && 1 < letters.length with
  | [], _ => refuse ("unrecognized option '--" ++ text ++ "'") spec.status
  | _, true =>
    refuse ("option '--" ++ text ++ "' is ambiguous; possibilities:" ++
      String.join (hits.map fun l => " '--" ++ l.1 ++ "'")) spec.status
  | (found, letter) :: _, _ =>
    if spec.withArgument.toList.contains letter then
      match value, rest with
      | _ :: value, rest => return (letter, String.ofList value, rest)
      | [], arg :: rest => return (letter, arg, rest)
      | [], [] => refuse ("option '--" ++ found ++ "' requires an argument") spec.status
    else if spec.mayHaveArgument.toList.contains letter then
      return (letter, if value.isEmpty then spec.implied else String.ofList value.tail, rest)
    else if !value.isEmpty then
      refuse ("option '--" ++ found ++ "' doesn't allow an argument") spec.status
    else
      if let some manual := spec.manual? then tellAbout manual letter
      return (letter, "", rest)

/-- Reads the letters of options in one argument; gives the arguments after it. -/
def readShort (spec : OptionSpec) : List Char → List String → Parsed → Tool (Parsed × List String)
  | [], rest, parsed => return (parsed, rest)
  | c :: cs, rest, parsed => do
    if spec.bare.toList.contains c then
      let argument := if spec.mayHaveArgument.toList.contains c then spec.implied else ""
      spec.check c argument
      readShort spec cs rest (parsed.addOption c argument)
    else if spec.withArgument.toList.contains c then
      let (arg, rest) ← match cs, rest with
        | [], [] =>
          refuse ("option requires an argument -- '" ++ String.singleton c ++ "'") spec.status
        | [], arg :: rest => pure (arg, rest)
        | cs, rest => pure (String.ofList cs, rest)
      spec.check c arg
      return (parsed.addOption c arg, rest)
    else refuse ("invalid option -- '" ++ String.singleton c ++ "'") spec.status

/-- Reads options and operands. -/
def readOptions (spec : OptionSpec) : (fuel : Nat) → List String → Parsed → Tool Parsed
  | 0, args, parsed => return parsed.addOperands args
  | _, [], parsed => return parsed
  | fuel + 1, arg :: rest, parsed => do
    match arg.toList with
    | ['-', '-'] => return parsed.addOperands rest
    | '-' :: '-' :: text =>
      let (letter, argument, rest) ← readLong spec (String.ofList text) rest
      spec.check letter argument
      readOptions spec fuel rest (parsed.addOption letter argument)
    | '-' :: c :: cs =>
      let (parsed, rest) ← readShort spec (c :: cs) rest parsed
      readOptions spec fuel rest parsed
    | _ =>
      if spec.mixes then readOptions spec fuel rest (parsed.addOperands [arg])
      else return parsed.addOperands (arg :: rest)

/-- What the arguments of a utility come to. Where strictness is asked for, no options come after
operands. -/
def parse (spec : OptionSpec) (args : List String) : Tool Parsed := do
  let mixes := spec.mixes && !(← isStrict)
  readOptions { spec with mixes } (args.length + 1) args {}

/-- Reads one of the words that an option takes, which may be shortened as long as only one thing is
meant. Words that mean the same stand together, before what they mean. -/
def readChoice {α : Type} (option word : String) (choices : List (List String × α))
    (status : Nat := 1) : Tool α := do
  let refuseWord (what : String) : Tool α := do
    grumble (what ++ " argument " ++ (← shownArgument word) ++ " for " ++ (← shownArgument option))
    addLine "Valid arguments are:"
    for (words, _) in choices do
      addLine ("  - " ++ ", ".intercalate (← words.mapM fun w => shownArgument w))
    giveUp status
  let hits := choices.filter fun c => c.1.any fun w => word.toList.isPrefixOf w.toList
  match choices.filter (·.1.contains word), hits with
  | exact :: _, _ => return exact.2
  | [], [hit] => return hit.2
  | [], [] => refuseWord "invalid"
  | [], _ => refuseWord "ambiguous"

/-- What a utility does that is asked about itself only where there is no other argument, and by a
name that is not shortened. -/
def orTellAbout (manual : Manual) (run : List String → Tool Unit) (args : List String) :
    Tool Unit :=
  match args with
  | ["--help"] => tellAbout manual helpLetter
  | ["--version"] => tellAbout manual versionLetter
  | args => run args

/-! ## §4 Operands -/

/-- Opens an operand for reading; `-` is the standard input. -/
def openOperand (operand : String) : Tool (Except Errno Nat) :=
  if operand = "-" then pure (.ok 0) else task (Task.openFile operand .read)

/-- Closes what was opened for an operand; what goes wrong with the standard input is told. -/
def closeOperand (operand : String) (descriptor : Nat) : Tool Unit :=
  if operand = "-" then pure () else task (Task.close descriptor)

/-- The operands, or the standard input if there are none. -/
def orInput (operands : List String) : List String := if operands.isEmpty then ["-"] else operands

end Exemplar.Utility
