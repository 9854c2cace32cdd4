/-
Exemplar.Utility.Environment — running a program with other variables: `env`.

Options and assignments stand before the program. An option may hold a text that is split into more
arguments, with quotes, escapes and variables of its own.

  §1 splitting texts
  §2 reading arguments
  §3 variables
  §4 programs
-/
import Exemplar.Kernel.Load
import Exemplar.Utility.Basic

namespace Exemplar.Utility.Environment

/-- The status where the program could not even be looked for. -/
def cancelled : Nat := 125

/-- Ends with a message. -/
def stop {α : Type} (message : String) : Tool α := do
  grumble message
  quit cancelled

/-! ## §1 Splitting texts -/

/-- In which quotes a place of a text is. -/
inductive Quotes where
  | none
  | single
  | double
  deriving DecidableEq

/-- How far a text is split: the words before the last one and that one, the last character first,
and whether the next character begins another word. -/
structure Split where
  words : List String := []
  word : List Char := []
  isBetween : Bool := true

namespace Split

/-- Begins a word if it is time for one. -/
def begun (s : Split) (isFirst : Bool) : Split :=
  if !s.isBetween then s
  else if isFirst then { s with isBetween := false }
  else { words := String.ofList s.word.reverse :: s.words, word := [], isBetween := false }

end Split

/-- The name of a variable between braces at the start of some characters, and what comes after. -/
def variableAt? : List Char → Option (String × List Char)
  | '\x7b' :: cs =>
    match cs.span fun c => c.isAlphanum || c = '_' with
    | (c :: name, '\x7d' :: rest) =>
      if c.isDigit then none else some (String.ofList (c :: name), rest)
    | _ => none
  | _ => none

/-- The characters that escapes stand for, by their letters. -/
def escapes : List (Char × Char) :=
  [('"', '"'), ('#', '#'), ('$', '$'), ('\x27', '\x27'), ('\\', '\\'), ('f', '\x0c'), ('n', '\n'),
   ('r', '\r'), ('t', '\t'), ('v', '\x0b')]

/-- Splits a text into words; `begins` says that no word was begun before. -/
def splitFrom (tells : Bool) :
    (fuel : Nat) → (begins : Bool) → Quotes → List Char → Split → Tool (List String × Bool)
  | 0, begins, _, _, s => return ((String.ofList s.word.reverse :: s.words).reverse, begins)
  | fuel + 1, begins, quotes, cs, s => do
    let finished : Tool (List String × Bool) :=
      return ((String.ofList s.word.reverse :: s.words).reverse, begins)
    let add (text : List Char) (rest : List Char) : Tool (List String × Bool) := do
      let s := s.begun begins
      splitFrom tells fuel false quotes rest { s with word := text.reverse ++ s.word }
    let turn (next : Quotes) (rest : List Char) : Tool (List String × Bool) :=
      splitFrom tells fuel false next rest (s.begun begins)
    let separate (rest : List Char) : Tool (List String × Bool) :=
      splitFrom tells fuel begins quotes rest { s with isBetween := true }
    match cs with
    | [] => if quotes = .none then finished else stop "no terminating quote in -S string"
    | '\x27' :: rest =>
      match quotes with
      | .none => turn .single rest
      | .single => turn .none rest
      | .double => add ['\x27'] rest
    | '"' :: rest =>
      match quotes with
      | .none => turn .double rest
      | .double => turn .none rest
      | .single => add ['"'] rest
    | '#' :: rest => if s.isBetween then finished else add ['#'] rest
    | '\\' :: rest =>
      if quotes = .single && rest.head? ≠ some '\\' && rest.head? ≠ some '\x27' then add ['\\'] rest
      else match rest with
        | [] => stop "invalid backslash at end of string in -S"
        | '_' :: rest => if quotes = .double then add [' '] rest else separate rest
        | 'c' :: _ =>
          if quotes = .double then stop "'\\c' must not appear in double-quoted -S string"
          else finished
        | c :: rest =>
          match escapes.lookup c with
          | some char => add [char] rest
          | none => stop ("invalid sequence '\\" ++ String.singleton c ++ "' in -S")
    | '$' :: rest =>
      if quotes = .single then add ['$'] rest
      else match variableAt? rest with
        | none =>
          stop ("only $\x7bVARNAME\x7d expansion is supported, error at: " ++
            String.ofList ('$' :: rest))
        | some (name, rest) =>
          match (← get).environment.lookup name with
          | some value =>
            if tells then
              addLine ("expanding $\x7b" ++ name ++ "\x7d into " ++ (← shownArgument value))
            add value.toList rest
          | none =>
            if tells then addLine ("replacing $\x7b" ++ name ++ "\x7d with null string")
            splitFrom tells fuel begins quotes rest s
    | c :: rest =>
      if Number.isSpace c && quotes = .none then separate rest else add [c] rest

/-- The words of a text. -/
def wordsOf (tells : Bool) (text : String) : Tool (List String) := do
  let (words, isNone) ← splitFrom tells (text.length + 1) true .none text.toList {}
  let words := if isNone then [] else words
  if tells then
    match ← words.mapM fun word => shownArgument word with
    | [] => pure ()
    | first :: others =>
      addLine ("split -S:  " ++ (← shownArgument text))
      addLine (" into:    " ++ first)
      for word in others do addLine ("     &    " ++ word)
  return words

/-! ## §2 Reading arguments -/

/-- The options. Blanks are none, but may stand where a line was to have several arguments. -/
def spec : OptionSpec where
  bare := "iv0 \t\n\x0b\x0c\r"
  withArgument := "uCS"
  mayHaveArgument := "\u0100\u0101\u0102"
  long := [("ignore-environment", 'i'), ("null", '0'), ("unset", 'u'), ("chdir", 'C'),
    ("default-signal", '\u0100'), ("ignore-signal", '\u0101'), ("block-signal", '\u0102'),
    ("list-signal-handling", '\u0103'), ("debug", 'v'), ("split-string", 'S')]
  status := cancelled
  manual? := some .env
  check letter _ := do
    if Number.isSpace letter then
      grumble ("invalid option -- '" ++ String.singleton letter ++ "'")
      refuse "use -[v]S to pass options in shebang lines" cancelled

/-- Reads the options at the start of arguments. A text that one of them has is split, and reading
goes on with its words. -/
def readArguments : (fuel : Nat) → List String → Parsed → Tool Parsed
  | 0, args, parsed => return parsed.addOperands args
  | _, [], parsed => return parsed
  | fuel + 1, arg :: rest, parsed => do
    let goOn (rest : List String) (after : Parsed) : Tool Parsed := do
      match after.options.drop parsed.options.length |>.getLast? with
      | some ('S', text) =>
        readArguments fuel ((← wordsOf (after.has 'v') text) ++ rest) after
      | _ => readArguments fuel rest after
    match arg.toList with
    | ['-', '-'] => return parsed.addOperands rest
    | '-' :: '-' :: text =>
      let (letter, argument, rest) ← readLong spec (String.ofList text) rest
      goOn rest (parsed.addOption letter argument)
    | '-' :: c :: cs =>
      let (after, rest) ← readShort spec (c :: cs) rest parsed
      goOn rest after
    | _ => return parsed.addOperands (arg :: rest)

/-! ## §3 Variables -/

/-- Variables with one more, in the place of one of its name if there is one. -/
def assigned (environment : Exemplar.Environment) (name value : String) : Exemplar.Environment :=
  if (environment.lookup name).isSome then
    environment.map fun e => if e.1 = name then (name, value) else e
  else environment ++ [(name, value)]

/-- The variables that the options leave. -/
def remaining (parsed : Parsed) (ignores tells : Bool) : Tool Exemplar.Environment := do
  if ignores then
    if tells then addLine "cleaning environ"
    return []
  let mut environment := (← get).environment
  for (letter, name) in parsed.options do
    if letter = 'u' then
      if tells then addLine ("unset:    " ++ name)
      if name = "" || name.toList.contains '=' then
        stop ("cannot unset " ++ (← shownArgument name) ++ ": " ++ Errno.invalidArgument.text)
      environment := environment.filter (·.1 ≠ name)
  return environment

/-- The variables that the assignments at the start of arguments leave, and the arguments after
them. -/
def withAssigned (tells : Bool) (environment : Exemplar.Environment) :
    List String → Tool (Exemplar.Environment × List String)
  | [] => return (environment, [])
  | arg :: rest => do
    match arg.toList.span (· ≠ '=') with
    | (name, _ :: value) =>
      if tells then addLine ("setenv:   " ++ arg)
      withAssigned tells (assigned environment (String.ofList name) (String.ofList value)) rest
    | (_, []) => return (environment, arg :: rest)

/-! ## §4 Programs -/

/-- Loads the first of some paths that can be executed. If none can be, `failure` is why: the last
error, unless one of them may not be executed, which is an error that stays. -/
def loadFirst (k : Kernel) (pid : Nat) (environment : Exemplar.Environment) (name : String)
    (args : List String) (failure : Errno) : List String → Except Errno (String × List String)
  | [] => .error failure
  | path :: rest =>
    match loadProgram k pid environment path name args with
    | .ok loaded => .ok loaded
    | .error errno =>
      if errno = .notExecutable then .ok (loadScript path args)
      else if errno = .accessDenied || isMissing errno then
        let failure := if failure = .accessDenied then failure else errno
        loadFirst k pid environment name args failure rest
      else .error errno

/-- Becomes a program. -/
def execute (program? : String → Option Executable) (environment : Exemplar.Environment)
    (name : String) (args : List String) : Tool Unit := do
  let paths :=
    if name = "" then []
    else if name.toList.contains '/' then [name]
    else pathsAlong ((environment.lookup "PATH").getD "/bin:/usr/bin") name
  let found ← task (Task.view fun pid k => loadFirst k pid environment name args .noEntry paths)
  match found with
  | .ok (image, argv) =>
    match program? image with
    | some program => task (Task.become (program argv environment))
    | none => quit 127
  | .error errno =>
    grumble ((← shownArgument name) ++ ": " ++ errno.text)
    if errno = .noEntry && name.toList.any Number.isSpace then
      grumble "use -[v]S to pass options in shebang lines"
    quit (if errno = .noEntry then 127 else 126)

/-- Runs a program with other variables, or tells the variables. -/
def run (program? : String → Option Executable) (args : List String) : Tool Unit := do
  modify fun s => { s with failureStatus := cancelled }
  let parsed ← readArguments ((args.map String.length).foldl (· + ·) args.length + 1) args {}
  let tells := parsed.has 'v'
  let isBare := parsed.operands.head? = some "-"
  let environment ← remaining parsed (isBare || parsed.has 'i') tells
  let (environment, command) ← withAssigned tells environment
    (if isBare then parsed.operands.tail else parsed.operands)
  match command with
  | [] =>
    if (parsed.argument? 'C').isSome then refuse "must specify command with --chdir (-C)" cancelled
    let ending := if parsed.has '0' then "\x00" else "\n"
    say (String.join (environment.map fun e => e.1 ++ "=" ++ e.2 ++ ending))
  | name :: args =>
    if parsed.has '0' then refuse "cannot specify --null (-0) with command" cancelled
    match parsed.argument? 'C' with
    | none => pure ()
    | some dir =>
      if tells then addLine ("chdir:    " ++ (← quotedName dir))
      match ← task (Task.act fun pid k => k.changeDirectory pid dir) with
      | .ok _ => pure ()
      | .error errno =>
        stop ("cannot change directory to " ++ (← quotedName dir) ++ ": " ++ errno.text)
    if tells then
      addLine ("executing: " ++ name)
      for (arg, i) in (name :: args).zipIdx do
        addLine ("   arg[" ++ toString i ++ "]= " ++ (← shownArgument arg))
    execute program? environment name args

end Exemplar.Utility.Environment
