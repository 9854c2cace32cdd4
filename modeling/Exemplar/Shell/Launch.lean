/-
Exemplar.Shell.Launch — from the name of a program to the program.

A name with a slash is a path. Any other stands for the first program of that name that can be
executed, along the search path from the entry on where it was found. A file that is neither an
image nor names an interpreter is run as a script if it starts as a text does.

  §1 the environment
  §2 becoming a program
-/
import Exemplar.Shell.Engine
import Exemplar.Shell.SearchPath

namespace Exemplar.Shell

/-! ## §1 The environment -/

/-- The shelf on which a shell keeps the variable of a name. There are 39 of them. -/
def shelfOf (name : String) : Nat :=
  let bytes := name.toList.map Char.toNat
  bytes.foldl (· + ·) (bytes.head?.getD 0 * 16) % 39

/-- The variables that programs see, shelf by shelf. -/
def State.environment (s : State) : Environment :=
  let seen := s.bindings.filterMap fun (name, v) =>
    if v.exported then v.value.map (name, ·) else none
  seen.mergeSort fun a b => shelfOf a.1 ≤ shelfOf b.1

/-! ## §2 Becoming a program -/

/-- Why a file that is neither an image nor names an interpreter is not run as a script, if it is
not: it cannot be opened, or does not start as a text does. -/
def scriptFault? (k : Kernel) (pid : Nat) (path : String) : Option Errno :=
  match (k.nextNumber? pid).isSome, k.stat pid path with
  | false, _ => some .tooManyFiles
  | true, .ok (_, .file file) =>
    if Image.startsAsText file.data then none else some .notExecutable
  | true, .ok _ => some .notExecutable
  | true, .error errno => some errno

/-- Becomes the program at the first of some paths that can be executed. If none can be, the script
ends: `failure` is why, or the last error that says more than that there is no program. -/
def becomeFirst (engine : Engine) (name : String) (args : List String) (failure : Errno) :
    List String → Act Unit
  | [] => do
    let isUnknown := isMissing failure || failure = .linkLoop || failure = .nameTooLong
    modify fun s => { s with status := if isUnknown then 127 else 126 }
    report (name ++ ": " ++ (if isMissing failure then "not found" else failure.text))
    throw .done
  | path :: rest => do
    let environment := (← get).environment
    let become (image : String) (argv : List String) : Act Unit := do
      match engine.program? image with
      | some program => task (Task.become (program argv environment))
      | none => throw .done
    let load (pid : Nat) (k : Kernel) : Except Errno (String × List String) :=
      match loadProgram k pid environment path name args with
      | .ok loaded => .ok loaded
      | .error errno =>
        let fault? := if errno = .notExecutable then scriptFault? k pid path else some errno
        match fault? with
        | none => .ok (loadScript path args)
        | some errno => .error errno
    match ← task (Task.view load) with
    | .ok (image, argv) => become image argv
    | .error errno =>
      becomeFirst engine name args (if isMissing errno then failure else errno) rest

/-- Becomes the program of a name, looked for along a search path from the entry of a number on. -/
def becomeProgram (engine : Engine) (searchPath : String) (index : Nat) (name : String)
    (args : List String) : Act Unit :=
  let entries := ((pathEntries searchPath).drop index).filter (·.supply = .programs)
  let paths := if name.toList.contains '/' then [name] else entries.map (·.pathOf name)
  becomeFirst engine name args .noEntry paths

/-- Starts a process that becomes a program; gives its number. -/
def launch (engine : Engine) (searchPath : String) (index : Nat) (name : String)
    (args : List String) : Act Nat :=
  fork do
    let _ ← attempt (becomeProgram engine searchPath index name args)
    let status := (← get).status
    task (Task.exit status)

end Exemplar.Shell
