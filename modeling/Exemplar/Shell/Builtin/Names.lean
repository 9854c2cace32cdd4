/-
Exemplar.Shell.Builtin.Names — what names stand for: `alias`, `unalias`, `type`, `command` and
`hash`.

  §1 aliases
  §2 meanings
  §3 programs that were found
-/
import Exemplar.Shell.Lookup

namespace Exemplar.Shell.Names

/-! ## §1 Aliases -/

/-- An alias as it is written out. -/
def aliasText (name value : String) : String := name ++ "=" ++ singleQuoted value ++ "\n"

/-- The number by which aliases are ordered. -/
def aliasKey (name : String) : Nat :=
  let cs := name.toList.map Char.toNat
  ((cs.head?.getD 0) * 16 + cs.foldl (· + ·) 0) % 39

/-- Makes aliases, or writes them out. Those of one key stand in the order in which they were
made. -/
def aliasAll (args : List String) : Act Nat := do
  if args.isEmpty then
    for (name, value) in (← get).aliases.mergeSort (fun a b => aliasKey a.1 ≤ aliasKey b.1) do
      say (aliasText name value)
    return 0
  let mut status := 0
  for arg in args do
    let cs := arg.toList
    let (name, rest) := cs.tail.span (· ≠ '=')
    let name := String.ofList (cs.take 1 ++ name)
    match rest with
    | _ :: value =>
      let value := String.ofList value
      let replaced (a : String × String) : String × String :=
        if a.1 = name then (name, value) else a
      modify fun s => { s with aliases :=
        if (s.aliases.lookup name).isSome then s.aliases.map replaced
        else s.aliases ++ [(name, value)] }
    | [] =>
      match (← get).aliases.lookup name with
      | some value => say (aliasText name value)
      | none =>
        complain ("alias: " ++ name ++ " not found\n")
        status := 1
  return status

/-- Takes aliases away. -/
def unalias (args : List String) : Act Nat := do
  let (options, names) ← readOptions { decisive := ['a'] } args
  if !options.isEmpty then
    modify fun s => { s with aliases := [] }
    return 0
  let mut status := 0
  for name in names do
    if ((← get).aliases.lookup name).isSome then
      modify fun s => { s with aliases := s.aliases.filter (·.1 ≠ name) }
    else
      complain ("unalias: " ++ name ++ " not found\n")
      status := 1
  return status

/-! ## §2 Meanings -/

/-- Says what a name means, in a sentence if `verbose`; gives the status. With `other`, programs are
looked for along another search path. -/
def describe (engine : Engine) (verbose : Bool) (other : Option String) (name : String) :
    Act Nat := do
  let s ← get
  if verbose then say name
  let tell (sentence brief : String) : Act Nat := do
    say ((if verbose then sentence else brief) ++ "\n")
    return 0
  let isPath := name.toList.contains '/'
  let found? := if other.isNone then s.found.lookup name else none
  if keywords.contains name then tell " is a shell keyword" name
  else if let some value := s.aliases.lookup name then
    if verbose then tell (" is an alias for " ++ value) name
    else
      say ("alias " ++ aliasText name value)
      return 0
  else
    let stands ← if isPath then (·.isOk) <$> task (Task.stat name) else pure true
    let doer ← match found?, stands with
      | some found, _ => pure (found.doer name)
      | none, false => pure (.missing .noEntry)
      | none, true => lookUp engine other false name
    match doer with
    | .function _ => tell " is a shell function" name
    | .builtin traits =>
      tell (" is a " ++ (if traits.special then "special " else "") ++ "shell builtin") name
    | .program _ path =>
      tell ((if found?.isSome then " is a tracked alias for " else " is ") ++ path) path
    | .missing _ =>
      if verbose then say ": not found\n"
      return 127

/-- Says what names mean. -/
def type (engine : Engine) (args : List String) : Act Nat := do
  let mut status := 0
  for name in args do
    status := status ||| (← describe engine true none name)
  return status

/-- Says what a name means, if that is asked for. -/
def command (engine : Engine) (args : List String) : Act Nat := do
  let (options, names) ← readOptions { bare := ['p', 'v', 'V'] } args
  let asks (letter : Char) : Bool := options.any (·.1 = letter)
  match names with
  | name :: _ =>
    if asks 'v' || asks 'V' then
      describe engine (asks 'V') (if asks 'p' then some standardPath else none) name
    else return 0
  | [] => return 0

/-! ## §3 Programs that were found -/

/-- The number by which programs that were found are ordered. -/
def foundKey (name : String) : Nat :=
  let cs := name.toList.map Char.toNat
  ((cs.head?.getD 0) * 16 + cs.foldl (· + ·) 0) % 31

/-- The path of a program that was found, as it is written out. -/
def foundText (found : Found) : String :=
  match found.path with
  | some path => path ++ (if found.isStale then "*" else "") ++ "\n"
  | none => ""

/-- Looks for programs, or writes out where those are that were found. -/
def hash (engine : Engine) (args : List String) : Act Nat := do
  let (options, names) ← readOptions { bare := ['r'] } args
  if !options.isEmpty then
    modify fun s => { s with found := [] }
    return 0
  if names.isEmpty then
    for (_, found) in (← get).found.mergeSort (fun a b => foundKey a.1 ≤ foundKey b.1) do
      say (foundText found)
    return 0
  let mut status := 0
  for name in names do
    modify (·.forgetFound name)
    match ← lookUp engine none false name with
    | .missing errno =>
      report (name ++ ": " ++ (if isMissing errno then "not found" else errno.text))
      status := 1
    | _ => pure ()
  return status

end Exemplar.Shell.Names
