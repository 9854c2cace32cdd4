/-
Exemplar.FileSystem.Tree — making and removing entries by path.

A `Planting` is an entry to be made, with the directories above it. Links on the way are followed;
the last step is not: an entry made where a link stands takes the link's place.
-/
import Exemplar.FileSystem.Access

namespace Exemplar

/-- An entry to be made: the steps to it and what is put there. -/
structure Planting where
  steps : List Step
  node : Node
  deriving Repr

namespace FileSystem

/-- Goes on from the directory at `here`, making the directories that are not there. Gives up at a
regular file. -/
def makeDirectories (fs : FileSystem) (here : Location) : List Step → Option (FileSystem × Location)
  | [] => some (fs, here)
  | step :: rest =>
    match fs.walk .find linkLimit here [step] with
    | .ok (.taken location .directory) => fs.makeDirectories location rest
    | .ok (.free location) => (fs.put location .directory).makeDirectories location rest
    | _ => none

/-- Makes an entry; a directory that stands there already stays. -/
def plant (fs : FileSystem) (here : Location) (planting : Planting) : FileSystem :=
  match planting.node with
  | .directory =>
    match fs.makeDirectories here planting.steps with
    | some (made, _) => made
    | none => fs
  | node =>
    match planting.steps.getLast? with
    | some (.into name) =>
      match fs.makeDirectories here planting.steps.dropLast with
      | some (made, parent) => made.put (name :: parent) node
      | none => fs
    | _ => fs

/-- The location that some steps lead to, with a link at the end not followed. -/
def lastLocation? (fs : FileSystem) (here : Location) (steps : List Step) : Option Location :=
  match steps.getLast?, fs.walk .find linkLimit here steps.dropLast with
  | some (.into name), .ok (.taken parent .directory) => some (name :: parent)
  | _, _ => none

/-- Removes what stands at the end of some steps, with all below it. -/
def uproot (fs : FileSystem) (here : Location) (steps : List Step) : FileSystem :=
  match fs.lastLocation? here steps with
  | some location => fs.erase location
  | none => fs

end FileSystem

end Exemplar
