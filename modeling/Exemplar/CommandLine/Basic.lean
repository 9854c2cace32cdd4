/-
Exemplar.CommandLine.Basic — what the arguments of the program ask for.

There is one argument, the example, and it may be left out; and there are two flags, which end the
reading at once. Arguments are read from left to right, and the first one that does not fit ends the
reading too. After `--` all arguments are positional, and so is `-` anywhere.

  §1 requests and mistakes
  §2 reading arguments
  §3 texts
-/
import Exemplar.CommandLine.Similarity
import Exemplar.Text.Split
import Exemplar.Text.Styling

namespace Exemplar.CommandLine

/-! ## §1 Requests and mistakes -/

/-- What a command line asks for. -/
inductive Request where
  | verify (arg : Option String)
  | help
  /-- The version; the long form says more. -/
  | version (long : Bool)
  deriving DecidableEq, Repr

/-- What may be said to someone who gave an argument that does not fit. -/
inductive Hint where
  | none
  /-- The argument can be given as a value, after `--`. -/
  | asValue
  /-- A flag is spelled much like it. -/
  | similar (flag : String)
  deriving DecidableEq, Repr

/-- Why a command line is refused. -/
inductive Mistake where
  /-- An argument that has no place; `given` says whether the usage shown takes the example as
  given. -/
  | unexpected (arg : String) (hint : Hint) (given : Bool)
  /-- A flag was given a value. -/
  | valued (flag value : String)
  deriving DecidableEq, Repr

/-! ## §2 Reading arguments -/

/-- The name and the value of a long option, without its dashes. -/
def splitValue (option : List Char) : String × Option String :=
  match option.span (· ≠ '=') with
  | (name, []) => (String.ofList name, none)
  | (name, _ :: value) => (String.ofList name, some (String.ofList value))

/-- What an unknown long option may have meant. -/
def hintFor (name : String) : Hint :=
  match Similarity.closest? name ["help", "version"] with
  | some flag => .similar ("--" ++ flag)
  | none => .asValue

/-- Reads a long option, given without its dashes, after `found`. -/
def readLong (found : Option String) (option : List Char) : Except Mistake Request :=
  match splitValue option with
  | ("help", none) => .ok .help
  | ("version", none) => .ok (.version true)
  | (name, value) =>
    match value with
    | some text =>
      if name = "help" || name = "version" then .error (.valued ("--" ++ name) text)
      else .error (.unexpected ("--" ++ name) (hintFor name) found.isSome)
    | none => .error (.unexpected ("--" ++ name) (hintFor name) found.isSome)

/-- Reads the first letter of a cluster of short options: each of them ends the reading. -/
def readShort (letter : Char) : Except Mistake Request :=
  if letter = 'h' then .ok .help
  else if letter = 'V' then .ok (.version false)
  else .error (.unexpected (String.ofList ['-', letter]) .asValue false)

/-- Reads the arguments after `found`, the example given so far. -/
def readFrom (found : Option String) (positional : Bool) :
    List String → Except Mistake Request
  | [] => .ok (.verify found)
  | arg :: rest =>
    let take : Except Mistake Request :=
      match found with
      | none => readFrom (some arg) positional rest
      | some _ => .error (.unexpected arg .none false)
    if positional then take
    else match arg.toList with
      | ['-', '-'] => readFrom found true rest
      | '-' :: '-' :: option => readLong found option
      | '-' :: letter :: _ => readShort letter
      | _ => take

/-- What the arguments ask for. -/
def read (args : List String) : Except Mistake Request :=
  readFrom none false args

/-! ## §3 Texts -/

/-- The name of the program. -/
def programName : String := "csynth-examples"

/-- The help text. -/
def helpText (styling : Styling) : String :=
  "Compile CSynth examples to Luau, run them with lune and check their output\n\n" ++
  styling.heading "Usage:" ++ " " ++ styling.bold programName ++ " [EXAMPLE]\n\n" ++
  styling.heading "Arguments:" ++
  "\n  [EXAMPLE]  Example directory name, or \x60all\x60 to verify every example\n\n" ++
  styling.heading "Options:" ++
  "\n  " ++ styling.bold "-h" ++ ", " ++ styling.bold "--help" ++ "     Print help\n" ++
  "  " ++ styling.bold "-V" ++ ", " ++ styling.bold "--version" ++ "  Print version\n"

/-- The version text. -/
def versionText (long : Bool) : String :=
  programName ++ " 0.1.0" ++ (if long then " (unknown)" else "") ++ "\n"

/-- The end of a refusal, for a command line in which `flag` stands, and the example too if
`given`. -/
def usageText (flag : String) (given : Bool) : String :=
  "\n\nUsage: " ++ programName ++ flag ++ (if given then " <EXAMPLE>" else " [EXAMPLE]") ++
    "\n\nFor more information, try '--help'.\n"

/-- What a refusal says. Arguments are shown in it without what would steer a terminal. -/
def Mistake.message : Mistake → String
  | .valued flag value =>
    "error: unexpected value '" ++ ControlSequence.shown value ++ "' for '" ++ flag ++
      "' found; no more were expected" ++ usageText (" " ++ flag) false
  | .unexpected arg hint given =>
    let arg := ControlSequence.shown arg
    let what := "error: unexpected argument '" ++ arg ++ "' found"
    match hint with
    | .none => what ++ usageText "" given
    | .asValue =>
      what ++ "\n\n  tip: to pass '" ++ arg ++ "' as a value, use '-- " ++ arg ++ "'" ++
        usageText "" given
    | .similar flag =>
      what ++ "\n\n  tip: a similar argument exists: '" ++ flag ++ "'" ++
        usageText (" " ++ flag) given

end Exemplar.CommandLine
