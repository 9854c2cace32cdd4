/-
Exemplar.Shell.Builtin.Flow — the course of a script: `break`, `continue`, `return`, `exit`, `eval`,
`.` and `exec`.
-/
import Exemplar.Shell.Builtin.Basic
import Exemplar.Shell.Launch
import Exemplar.Shell.Lookup

namespace Exemplar.Shell.Flow

/-- Leaves loops, or goes on with the next round of one; as many as there are at most. -/
def leaveLoops (skip : Skip) (args : List String) : Act Nat := do
  let n ← match args with
    | [] => pure 1
    | arg :: _ => do
      let n ← needNumber arg
      if n = 0 then fail ("Illegal number: " ++ arg)
      pure n
  modify fun s =>
    let count := min n s.loops
    if count = 0 then s else { s with skip, skipCount := count }
  return 0

/-- Leaves a function or a script, with a status. -/
def giveBack (args : List String) : Act Nat := do
  let status ← match args with
    | [] => pure (← get).status
    | arg :: _ => needNumber arg
  modify fun s => { s with skip := .giveBack (!args.isEmpty) }
  return status

/-- Ends the script, with a status. -/
def exit (args : List String) : Act Nat := do
  match args with
  | [] => pure ()
  | arg :: _ =>
    let status ← needNumber arg
    modify fun s => { s with statusBefore := some status }
  throw .exit

/-- Runs its arguments as commands. -/
def eval (engine : Engine) (flags : Flags) (args : List String) : Act Nat := do
  if args.isEmpty then return 0
  runText engine (" ".intercalate args) { tested := flags.tested }
  return (← get).status

/-- The file that a name without a slash stands for along the search path. -/
def fileAlong (name : String) : Act String := do
  let entries := (pathEntries (← get).searchPath).filter (·.supply ≠ .builtins)
  let paths := entries.map (·.pathOf name)
  let found ← task (Task.view fun pid k => paths.find? fun path =>
    match k.stat pid path with
    | .ok (_, .file _) => true
    | _ => false)
  match found with
  | some path => return path
  | none => fail (name ++ ": not found")

/-- Runs a file as part of the script. -/
def source (engine : Engine) (args : List String) : Act Nat := do
  match ← operandsOf args with
  | [] => return 0
  | name :: _ =>
    let path ← if name.toList.contains '/' then pure name else fileAlong name
    let number ← openScript path
    modify fun s => { s with caller := some path }
    ensuring (runBlocks engine true "" (blockOf number)) (task (Task.close number))
    return (← get).status

/-- Becomes a program; without one nothing is done. -/
def exec (engine : Engine) (args : List String) : Act Nat := do
  match args with
  | [] => return 0
  | name :: args =>
    becomeProgram engine (← get).searchPath 0 name args
    return 0

end Exemplar.Shell.Flow
