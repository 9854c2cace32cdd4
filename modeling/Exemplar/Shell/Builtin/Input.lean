/-
Exemplar.Shell.Builtin.Input — reading into variables: `read` from the standard input, and `getopts`
from the parameters.

  §1 lines
  §2 options of scripts
-/
import Exemplar.Shell.Builtin.Basic
import Exemplar.Shell.Expansion

namespace Exemplar.Shell.Input

/-! ## §1 Lines -/

/-- How far a line has been read: its characters, the last one first, and whether a backslash stands
before the next one. -/
structure Line where
  chars : List LineChar := []
  quotes : Bool := false

/-- Adds a byte to a line; tells whether it ends the line. Backslashes quote characters and join
lines unless the line is `raw`. -/
def Line.push (raw : Bool) (line : Line) (b : UInt8) : Line × Bool :=
  let c := Char.ofNat b.toNat
  if c = '\x00' then (line, false)
  else if line.quotes then
    ({ chars := if c = '\n' then line.chars else (c, true) :: line.chars, quotes := false }, false)
  else if !raw && c = '\\' then ({ line with quotes := true }, false)
  else if c = '\n' then (line, true)
  else ({ line with chars := (c, false) :: line.chars }, false)

/-- Reads a line, and leaves what comes after it to others. Gives also whether its end was
reached. -/
def readLine (raw : Bool) : Act (List LineChar × Bool) :=
  repeated (fun (line : Line) => do
    match ← task (Task.readInLine 0) with
    | .ok (b :: bytes) =>
      let (line, isOver) := bytes.foldl (fun p b => p.1.push raw b) (line.push raw b)
      pure (if isOver then .inr (line.chars.reverse, true) else .inl line)
    | _ => pure (.inr (line.chars.reverse, false))) Task.endless {}

/-- Gives variables their parts of a line, and nothing to those for which none is left. -/
def assignParts : List String → List String → Act Unit
  | [], _ => pure ()
  | name :: names, parts => do
    assign (← needName name) (parts.head?.getD "")
    assignParts names parts.tail

/-- Reads a line into variables. -/
def read (args : List String) : Act Nat := do
  let (options, names) ← readOptions { bare := ['r'], withArgument := ['p'] } args
  if names.isEmpty then fail "arg count"
  let (line, isEnded) ← readLine (options.any (·.1 = 'r'))
  assignParts names (cutLine (← get).separators names.length line)
  return if isEnded then 0 else 1

/-! ## §2 Options of scripts -/

/-- Looks for the letter of an option in those that a script has; gives whether it has an
argument. -/
def hasArgument? (letter : Char) : List Char → Option Bool
  | [] => none
  | c :: ':' :: rest => if c = letter then some true else hasArgument? letter rest
  | c :: rest => if c = letter then some false else hasArgument? letter rest

/-- What has been found: the letter, what is left of the parameter that it stands in, and the
parameters that are passed so far. -/
structure Found where
  letter : Char := '?'
  rest : Option (List Char) := none
  passed : Nat
  isOver : Bool := false

/-- Looks for the next option among parameters. -/
def nextOption (letters : List Char) (args : Array String) (index : Nat) (offset : Option Nat) :
    Act Found := do
  let silent := letters.head? = some ':'
  let here : Option (List Char) := match offset with
    | some n => if 1 < index then (args[index - 2]?).map fun arg => arg.toList.drop n else none
    | none => none
  let refuse (letter : Char) (rest : Option (List Char)) (passed : Nat) (shown : Char)
      (message : String) : Act Found := do
    if silent then assign "OPTARG" (String.singleton letter)
    else
      complain message
      unassign "OPTARG"
    return { letter := if silent then shown else '?', rest, passed }
  let goOn (letter : Char) (rest : List Char) (passed : Nat) : Act Found := do
    match hasArgument? letter letters with
    | none =>
      refuse letter (some rest) passed '?' ("Illegal option -" ++ String.singleton letter ++ "\n")
    | some false =>
      assign "OPTARG" ""
      return { letter, rest := some rest, passed }
    | some true =>
      if !rest.isEmpty then
        assign "OPTARG" (String.ofList rest)
        return { letter, passed }
      else match args[passed]? with
        | some arg =>
          assign "OPTARG" arg
          return { letter, passed := passed + 1 }
        | none =>
          refuse letter none passed ':'
            ("No arg for -" ++ String.singleton letter ++ " option\n")
  match here with
  | some (letter :: rest) => goOn letter rest (index - 1)
  | _ =>
    match (args[index - 1]?).map String.toList with
    | some ['-', '-'] => return { passed := index, isOver := true }
    | some ('-' :: letter :: rest) => goOn letter rest index
    | _ => return { passed := index - 1, isOver := true }

/-- Finds the next option among the parameters, or among arguments. -/
def getopts (args : List String) : Act Nat := do
  match args with
  | letters :: name :: given =>
    let s ← get
    let params := if given.isEmpty then s.params else given
    let (index, offset) := match s.optionIndex with
      | some index => if params.length + 1 < index then (1, none) else (index, s.optionOffset)
      | none => (1, none)
    let params := params.toArray
    modify fun s => { s with optionIndex := none }
    let found ← nextOption letters.toList params index offset
    assign "OPTIND" (toString (found.passed + 1)) false false
    assign (← needName name) (String.singleton found.letter)
    modify fun s => { s with
      optionIndex := some (found.passed + 1)
      optionOffset := found.rest.map fun rest =>
        ((params[found.passed - 1]?).getD "").length - rest.length }
    return if found.isOver then 1 else 0
  | _ => fail "Usage: getopts optstring var [arg...]"

end Exemplar.Shell.Input
