/-
Exemplar.Shell.Builtin.Directory — the directory of a script: `cd` and `pwd`.

A script knows the name under which it came to its directory; going up takes the last part of that
name away, whatever links were followed.

  §1 names of directories
  §2 going elsewhere
-/
import Exemplar.Search
import Exemplar.Shell.Builtin.Basic

namespace Exemplar.Shell.Directory

/-! ## §1 Names of directories -/

/-- The parts of a path after those before it, which stand the last one first. -/
def stepThrough : List String → List String → List String
  | before, [] => before
  | before, part :: rest =>
    if part = "" || part = "." then stepThrough before rest
    else if part = ".." then stepThrough before.tail rest
    else stepThrough (part :: before) rest

/-- The name of the directory that a path names from one with a name. Two slashes at the start are
more than one, but three are not. -/
def nameFrom (directory path : String) : String :=
  let base := if path.front = '/' then "" else directory
  let whole := if path.front = '/' then path else directory
  let root := match whole.toList with
    | '/' :: '/' :: '/' :: _ => "/"
    | '/' :: '/' :: _ => "//"
    | _ => "/"
  let before := (Text.split '/' base).filter (· ≠ "")
  let parts := stepThrough before.reverse (Text.split '/' path)
  root ++ "/".intercalate parts.reverse

/-- The name of the directory that a process is in, by the parts on the way from the root. -/
def physicalName : Act String :=
  task (Task.view fun pid k => Octets.ofBytes (k.hereOf pid).path)

/-! ## §2 Going elsewhere -/

/-- Whether a path leads to a directory. -/
def isDirectory (path : String) : Act Bool := do
  match ← task (Task.stat path) with
  | .ok (_, .directory) => return true
  | _ => return false

/-- Goes to a directory, by its own name or, if `physical`, by that of its place; gives whether that
was possible. -/
def goTo (physical : Bool) (path : String) : Act Bool := do
  let old := (← get).directory
  let name := nameFrom old path
  let goal := if physical then path else name
  match ← task (Task.act fun pid k => k.changeDirectory pid goal) with
  | .error _ => return false
  | .ok _ =>
    let name ← if physical then physicalName else pure name
    assign "OLDPWD" old true
    modify fun s => { s with
      directory := name, isPlaced := physical
      found := s.found.map fun (name, found) => (name, { found with isStale := true }) }
    assign "PWD" name true
    return true

/-- The path to try for a directory, and whether its name is told then: directories of `CDPATH` come
first, unless the name starts with one that needs none. Without a name it is the directory itself
that is looked for. -/
def candidate (path : String) : Act (String × Bool) := do
  let s ← get
  let first := (Text.split '/' path).head?.getD ""
  let needsNone := path.front = '/' || first = "." || first = ".."
  let path := if path = "" then "." else path
  match s.valueOf? "CDPATH" with
  | none => return (path, false)
  | some dirs =>
    if needsNone then return (path, false)
    else
      let tries := (Text.split ':' dirs).map fun dir =>
        (if dir = "" then path else dir ++ "/" ++ path, decide (dir ≠ ""))
      let found ← tries.filterM fun t => isDirectory t.1
      return found.head?.getD (path, false)

/-- Whether the last of the options `L` and `P` asks for the place. -/
def isPhysical (options : List (Char × String)) : Bool :=
  (options.getLast?.map (·.1)) = some 'P'

/-- Changes the directory of the script. -/
def cd (args : List String) : Act Nat := do
  let (options, args) ← readOptions { bare := ['L', 'P'] } args
  let s ← get
  let path := match args.head? with
    | none => s.valueOf "HOME"
    | some "-" => s.valueOf "OLDPWD"
    | some path => path
  let (goal, isTold) ← candidate path
  if !(← goTo (isPhysical options) goal) then fail ("can't cd to " ++ path)
  if isTold || args.head? = some "-" then
    let directory := (← get).directory
    say (directory ++ "\n")
  return 0

/-- Finds out the place of the directory, unless it is known. `PWD` is set anew then. -/
def place : Act String := do
  let s ← get
  let name ← physicalName
  if !s.isPlaced then
    set { s with isPlaced := true }
    assign "PWD" s.directory true
  return name

/-- Writes the name of the directory. -/
def pwd (args : List String) : Act Nat := do
  let (options, _) ← readOptions { bare := ['L', 'P'] } args
  let name ← if isPhysical options then place else pure (← get).directory
  say (name ++ "\n")
  return 0

end Exemplar.Shell.Directory
