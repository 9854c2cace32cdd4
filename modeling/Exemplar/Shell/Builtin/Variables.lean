/-
Exemplar.Shell.Builtin.Variables — variables, parameters and options: `set`, `shift`, `export`,
`readonly`, `local` and `unset`.

  §1 listing
  §2 options and parameters
  §3 marks of variables
-/
import Exemplar.Shell.Builtin.Basic

namespace Exemplar.Shell.Variables

/-! ## §1 Listing -/

/-- What decides where a variable stands in a list: the bytes of its name and of the end after it,
those beyond ASCII before all others. -/
def nameKey (name : String) : String :=
  String.ofList ((name.toList ++ ['\x00']).map fun c => Char.ofNat ((c.toNat + 128) % 256))

/-- Writes out the variables that a test picks, sorted by name, as commands that would make them. -/
def list (label : String) (p : Variable → Bool) : Act Unit := do
  let picked := (← get).bindings.filter fun e => p e.2
  for (name, v) in picked.mergeSort (fun a b => nameKey a.1 ≤ nameKey b.1) do
    let value := match v.value with
      | some value => "=" ++ singleQuoted value
      | none => ""
    say ((if label = "" then "" else label ++ " ") ++ name ++ value ++ "\n")

/-! ## §2 Options and parameters -/

/-- The names of the options, with their letters; those that have no letter have one here that
cannot be typed. -/
def optionNames : List (String × Char) :=
  [("errexit", 'e'), ("noglob", 'f'), ("ignoreeof", 'I'), ("interactive", 'i'), ("monitor", 'm'),
   ("noexec", 'n'), ("stdin", 's'), ("xtrace", 'x'), ("verbose", 'v'), ("vi", 'V'), ("emacs", 'E'),
   ("noclobber", 'C'), ("allexport", 'a'), ("notify", 'b'), ("nounset", 'u'), ("privileged", 'p'),
   ("nolog", '\u0101'), ("debug", '\u0102')]

/-- Writes out which options are on; the `unsettled` ones count as such. -/
def listOptions (on : Bool) (unsettled : Char → Bool) : Act Unit := do
  let s ← get
  if on then say "Current option settings\n"
  for (name, letter) in optionNames do
    let isOn := unsettled letter || s.has letter
    if on then
      let gap := String.ofList (List.replicate (16 - name.length) ' ')
      say (name ++ gap ++ (if isOn then "on" else "off") ++ "\n")
    else say ("set " ++ (if isOn then "-o " else "+o ") ++ name ++ "\n")

/-- Turns the option of a name on or off; gives the letters of those that are off now. -/
def turnNamed (on : Bool) (name : String) : Act (List Char) := do
  match optionNames.lookup name with
  | some letter =>
    modify (·.turn on letter)
    return if on then [] else [letter]
  | none => fail ("Illegal option -o " ++ name)

/-- The option that ends when another one is asked for by its letter: there are two ways to edit a
line. -/
def rivalOf? : Char → Option Char
  | 'V' => some 'E'
  | 'E' => some 'V'
  | _ => none

/-- Turns the option of a letter on or off; gives the letters of those that are off now. -/
def turnLetter (on : Bool) (letter : Char) : Act (List Char) := do
  if !optionNames.any (·.2 = letter) then fail ("Illegal option -" ++ String.singleton letter)
  let off := if on then (rivalOf? letter).toList else [letter]
  modify fun s => off.foldl (·.turn false ·) (s.turn on letter)
  return off

/-- What the options at the start of arguments come to: the arguments after them, and what the
letters asked for that only count when a shell starts. -/
structure Options where
  args : List String
  /-- Whether the command to run is an argument. -/
  isCommand : Bool := false
  /-- Whether they ended with the words that end options. -/
  isEnded : Bool := false
  /-- Whether they say if jobs are controlled. -/
  saysJobs : Bool := false
  /-- The letters of the options that they turned off. -/
  off : List Char := []

/-- Turns the options of some letters on or off. One of them may take the next argument. -/
def turnLetters (starting on : Bool) : List Char → Options → Act Options
  | [], options => return options
  | c :: cs, options => do
    if c = 'c' && starting then turnLetters starting on cs { options with isCommand := true }
    else if c = 'l' && starting then turnLetters starting on cs options
    else if c = 'o' then
      match options.args with
      | [] =>
        listOptions on fun letter => starting && !options.off.contains letter
        turnLetters starting on cs options
      | name :: args =>
        let off ← turnNamed on name
        let saysJobs := options.saysJobs || name = "monitor"
        turnLetters starting on cs { options with args, saysJobs, off := off ++ options.off }
    else
      let off ← turnLetter on c
      let saysJobs := options.saysJobs || c = 'm'
      turnLetters starting on cs { options with saysJobs, off := off ++ options.off }

/-- Turns the options on and off that stand at the start of arguments; `starting` says that a shell
starts with them. -/
def turnOptions (starting : Bool) : (fuel : Nat) → Options → Act Options
  | 0, options => return options
  | fuel + 1, options => do
    match options.args with
    | [] => return options
    | arg :: args =>
      match arg.toList with
      | ['-'] =>
        if !starting then modify fun s => (s.turn false 'x').turn false 'v'
        return { options with args }
      | ['-', '-'] => return { options with args, isEnded := true }
      | '-' :: cs =>
        turnOptions starting fuel (← turnLetters starting true cs { options with args })
      | '+' :: cs =>
        turnOptions starting fuel (← turnLetters starting false cs { options with args })
      | _ => return options

/-- Says that there is no terminal at which jobs could be controlled. -/
def refuseTerminal : Act Unit := do
  if (← get).has 'm' then
    report "can't access tty; job control turned off"
    modify (·.turn false 'm')

/-- Sets parameters; options are looked for in them from the start. -/
def setParams (params : List String) : Act Unit :=
  modify fun s => { s with params, optionIndex := some 1, optionOffset := none }

/-- Sets options and parameters; writes all variables out if nothing is given. -/
def set (args : List String) : Act Nat := do
  if args.isEmpty then list "" fun v => v.value.isSome
  else
    let options ← turnOptions false (args.length + 1) { args }
    if !(← get).isPart then refuseTerminal
    if options.isEnded || !options.args.isEmpty then setParams options.args
  return 0

/-- Drops the first parameters. -/
def shift (args : List String) : Act Nat := do
  let n ← match args with
    | [] => pure 1
    | arg :: _ => needNumber arg
  let params := (← get).params
  if params.length < n then fail "can't shift that many"
  setParams (params.drop n)
  return 0

/-! ## §3 Marks of variables -/

/-- The name and the value of an argument that assigns, if it has a value. -/
def splitAssign (arg : String) : String × Option String :=
  match arg.toList.span (· ≠ '=') with
  | (name, _ :: value) => (String.ofList name, some (String.ofList value))
  | (name, []) => (String.ofList name, none)

/-- The name that an argument gives to a variable, with its value if it has one. Without a value,
the name of a variable that there is counts whatever it looks like. -/
def needBinding (arg : String) : Act (String × Option String) := do
  let (name, value?) := splitAssign arg
  if value?.isNone && ((← get).bindings.lookup name).isSome then return (name, none)
  else return (← needName arg, value?)

/-- Marks variables, after giving them values where there are some; writes out those that are marked
if nothing is given. -/
def markAll (label : String) (mark : Variable → Variable) (isMarked : Variable → Bool)
    (args : List String) : Act Nat := do
  let (options, args) ← readOptions { decisive := ['p'] } args
  if !options.isEmpty || args.isEmpty then
    list label isMarked
    return 0
  for arg in args do
    let (name, value?) ← needBinding arg
    if let some value := value? then assign name value
    modify fun s => s.bind name (mark ((s.bindings.lookup name).getD {}))
  return 0

/-- Lets programs see variables. -/
def exportAll (args : List String) : Act Nat :=
  markAll "export" (fun v => { v with exported := true }) (·.exported) args

/-- Lets variables change no more. -/
def fixAll (args : List String) : Act Nat :=
  markAll "readonly" (fun v => { v with fixed := true }) (·.fixed) args

/-- Gives variables to the running function for its own, or its options. Whether a text with a value
starts with a name is only seen at the end of the function. -/
def makeLocal (args : List String) : Act Nat := do
  if (← get).saved.isEmpty then fail "not in a function"
  for arg in args do
    if arg = "-" then rememberOptions
    else
      match splitAssign arg with
      | (name, some value) =>
        remember name
        assign name value
      | (_, none) => remember (← needBinding arg).1
  return 0

/-- Takes variables away, or functions. -/
def unset (args : List String) : Act Nat := do
  let (options, names) ← readOptions { bare := ['v', 'f'] } args
  let isFunction := (options.getLast?.map (·.1)) = some 'f'
  for name in names do
    if isFunction then
      modify fun s => { s with functions := s.functions.filter (·.1 ≠ name) }
    else unassign (← needName name)
  return 0

end Exemplar.Shell.Variables
