/-
Exemplar.Shell.Lookup — what does the command of a name.

A name with a slash is the path of a program. Any other is the name of a function, of a command that
the shell does by itself, or of a program, which is looked for along the search path. Where it was
found is remembered. When the script changes its directory what is remembered grows stale: it is
looked for again when it is needed, but told until then.

  §1 what is remembered
  §2 definitions of functions
  §3 looking up
-/
import Exemplar.Shell.Builtin.Basic
import Exemplar.Shell.Redirect
import Exemplar.Shell.SearchPath
import Exemplar.Shell.Stream

namespace Exemplar.Shell

/-! ## §1 What is remembered -/

/-- The search path. -/
def State.searchPath (s : State) : String := s.valueOf "PATH"

/-- The search path that finds the standard utilities. -/
def standardPath : String := "/usr/local/sbin:/usr/local/bin:/usr/sbin:/usr/bin:/sbin:/bin"

/-- Remembers where a command was found, in the place of what was known of it. -/
def State.keepFound (s : State) (name : String) (found : Found) : State :=
  { s with found :=
      if (s.found.lookup name).isSome then
        s.found.map fun e => if e.1 = name then (name, found) else e
      else s.found ++ [(name, found)] }

/-- Forgets where a command was found. -/
def State.forgetFound (s : State) (name : String) : State :=
  { s with found := s.found.filter (·.1 ≠ name) }

/-! ## §2 Definitions of functions -/

/-- Runs a file that is to define a function, as a part of the script. -/
def loadDefinition (engine : Engine) (name path : String) : Act Cmd := do
  let number ← openScript path
  ensuring (runBlocks engine true "" (blockOf number)) (task (Task.close number))
  match (← get).functions.lookup name with
  | some (_, body) => return body
  | none => fail (name ++ " not defined in " ++ path)

/-! ## §3 Looking up -/

/-- What does a command. -/
inductive Doer where
  | builtin (traits : Traits)
  | function (body : Cmd)
  /-- The program that an entry of the search path supplies. -/
  | program (index : Nat) (path : String)
  | missing (errno : Errno)

/-- What does a command, by what is remembered of it. -/
def Found.doer (found : Found) (name : String) : Doer :=
  match found.path, traits? name with
  | none, some traits => .builtin traits
  | path?, _ => .program found.index (path?.getD name)

/-- What does a command without being looked for along the search path: a function, unless these are
passed over, or the shell. -/
def doerAtOnce? (s : State) (direct : Bool) (name : String) : Option Doer :=
  match direct, s.functions.lookup name, traits? name with
  | false, some (_, body), _ => some (.function body)
  | _, _, some traits => if traits.regular then some (.builtin traits) else none
  | _, _, none => none

/-- Finds out what does the command of a name. With `other`, programs are looked for along another
search path, and nothing is remembered; with `direct`, functions are passed over. -/
def lookUp (engine : Engine) (other : Option String) (direct : Bool) (name : String) :
    Act Doer := do
  let s ← get
  let isKept := other.isNone && (s.functions.lookup name).isNone
  let found? := if isKept then s.found.lookup name else none
  let isLast := other.isSome || entriesBefore s.searchPath = 0
  let keep (found : Found) : Act Unit := if isKept then modify (·.keepFound name found) else pure ()
  match doerAtOnce? s direct name, found?, traits? name with
  | some doer, _, _ => return doer
  | none, some ⟨index, path, false⟩, _ => return Found.doer ⟨index, path, false⟩ name
  | none, _, traits? =>
    if name.toList.contains '/' then return .program 0 name
    if let some traits := traits? then if isLast then return .builtin traits
    let entries := pathEntries (other.getD s.searchPath)
    let quest : Quest :=
      { name, isBuiltin := traits?.isSome, direct, before := found?.map (·.index) }
    match ← task (Task.view fun pid k => quest.search k pid 0 .noEntry entries) with
    | .builtin =>
      keep { index := entriesBefore s.searchPath, path := none }
      return .builtin (traits?.getD {})
    | .same =>
      let found := { found?.getD { index := 0, path := none } with isStale := false }
      keep found
      return found.doer name
    | .program index =>
      let path := (entries[index]?.getD { dir := "" }).pathOf name
      keep { index, path := some path }
      return .program index path
    | .definition path => return .function (← loadDefinition engine name path)
    | .missing errno =>
      if isKept then modify (·.forgetFound name)
      return .missing errno

end Exemplar.Shell
