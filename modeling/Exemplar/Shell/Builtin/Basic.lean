/-
Exemplar.Shell.Builtin.Basic — what the commands that a shell does by itself have in common.

  §1 commands
  §2 options
  §3 quoted texts
-/
import Exemplar.Shell.Engine

namespace Exemplar.Shell

/-! ## §1 Commands -/

/-- What is known of a command that a shell does by itself before it runs. -/
structure Traits where
  /-- Whether it is found before the search path is looked at, whatever that says. -/
  regular : Bool := true
  /-- Whether what goes wrong with it ends the script, and assignments before it stay. -/
  special : Bool := false
  /-- Whether its arguments may be assignments, which are expanded as such. -/
  assigns : Bool := false

/-- The special commands. -/
def specials : List String :=
  [".", ":", "break", "continue", "eval", "exec", "exit", "export", "local", "readonly", "return",
   "set", "shift", "times", "trap", "unset"]

/-- The other commands that are found before the search path is looked at. -/
def regulars : List String :=
  ["alias", "bg", "cd", "command", "false", "fg", "getopts", "hash", "jobs", "kill", "pwd", "read",
   "true", "type", "ulimit", "umask", "unalias", "wait"]

/-- The commands that come at the place in the search path that is given to them. -/
def irregulars : List String := ["[", "chdir", "echo", "printf", "test"]

/-- What is known of the command of a name, if a shell does it by itself. -/
def traits? (name : String) : Option Traits :=
  if specials.contains name then
    some { special := true, assigns := ["export", "local", "readonly"].contains name }
  else if regulars.contains name then some { assigns := name = "alias" }
  else if irregulars.contains name then some { regular := false }
  else none

/-! ## §2 Options -/

/-- The letters of options, and which of them have an argument. After a letter that is `decisive`
nothing more is read. -/
structure OptionLetters where
  bare : List Char := []
  withArgument : List Char := []
  decisive : List Char := []

/-- Reads letters of options, and then more options from the arguments after them. Gives the options
in order, with their arguments, and the operands. -/
def readLetters (letters : OptionLetters) :
    (fuel : Nat) → List Char → List String → Act (List (Char × String) × List String)
  | 0, _, args => return ([], args)
  | fuel + 1, c :: cs, args => do
    if letters.decisive.contains c then return ([(c, "")], args)
    else if letters.bare.contains c then
      let (options, operands) ← readLetters letters fuel cs args
      return ((c, "") :: options, operands)
    else if letters.withArgument.contains c then
      match cs, args with
      | [], [] => fail ("No arg for -" ++ String.singleton c ++ " option")
      | [], arg :: args =>
        let (options, operands) ← readLetters letters fuel [] args
        return ((c, arg) :: options, operands)
      | cs, args =>
        let (options, operands) ← readLetters letters fuel [] args
        return ((c, String.ofList cs) :: options, operands)
    else fail ("Illegal option -" ++ String.singleton c)
  | fuel + 1, [], arg :: args => do
    match arg.toList with
    | ['-', '-'] => return ([], args)
    | '-' :: c :: cs => readLetters letters fuel (c :: cs) args
    | _ => return ([], arg :: args)
  | _ + 1, [], [] => return ([], [])

/-- Reads the options at the start of arguments. -/
def readOptions (letters : OptionLetters) (args : List String) :
    Act (List (Char × String) × List String) :=
  readLetters letters ((args.map String.length).foldl (· + ·) 0 + args.length + 1) [] args

/-- The operands of a command that has no options. -/
def operandsOf (args : List String) : Act (List String) := do
  return (← readOptions {} args).2

/-! ## §3 Quoted texts -/

/-- A text between single quotes; single quotes in it stand between double quotes. -/
def singleQuoted (text : String) : String :=
  let rec go : (fuel : Nat) → List Char → String
    | 0, _ => ""
    | fuel + 1, cs =>
      let (plain, rest) := cs.span (· ≠ '\x27')
      let (quotes, rest) := rest.span (· = '\x27')
      "'" ++ String.ofList plain ++ "'" ++
        (if quotes.isEmpty then "" else
          "\"" ++ String.ofList quotes ++ "\"" ++ (if rest.isEmpty then "" else go fuel rest))
  go (text.length + 1) text.toList

end Exemplar.Shell
