/-
Exemplar.Listing — files written down as text.

A listing has one entry a line: what it is, a blank, and its path.

    dir examples/hello
    file examples/hello/output.txt
    program bin/lune
    link examples/latest -> hello

The lines below a file or program that start with a tab are its content, each without the tab and
with its newline. All other lines say nothing.
-/
import Exemplar.FileSystem.Tree

namespace Exemplar.Listing

/-- The entry that a line writes down, its content apart. -/
def planting? (line : String) : Option Planting :=
  let made (path : List Char) (node : Node) : Option Planting :=
    some ⟨(Path.mk (String.ofList path)).steps, node⟩
  match line.toList with
  | 'd' :: 'i' :: 'r' :: ' ' :: path => made path .directory
  | 'f' :: 'i' :: 'l' :: 'e' :: ' ' :: path => made path (.file { data := [], stamp := .old })
  | 'p' :: 'r' :: 'o' :: 'g' :: 'r' :: 'a' :: 'm' :: ' ' :: path =>
    made path (.file ⟨[], File.programRights, .old⟩)
  | 'l' :: 'i' :: 'n' :: 'k' :: ' ' :: rest =>
    let path := rest.takeWhile (· ≠ ' ')
    match rest.drop path.length with
    | ' ' :: '-' :: '>' :: ' ' :: target => made path (.link (Utf8.encode (String.ofList target)))
    | _ => none
  | _ => none

/-- An entry with a line added to its content. -/
def extend (line : String) (planting : Planting) : Planting :=
  match planting.node with
  | .file file =>
    { planting with node := .file { file with data := file.data ++ Utf8.encode (line ++ "\n") } }
  | _ => planting

/-- The entries with one more line read; the last entry comes first. -/
def addLine (found : List Planting) (line : String) : List Planting :=
  match line.toList, found with
  | '\t' :: content, last :: before => extend (String.ofList content) last :: before
  | _, found =>
    match planting? line with
    | some planting => planting :: found
    | none => found

/-- The entries that a listing writes down, in order. -/
def parse (text : String) : List Planting :=
  ((Text.split '\n' text).foldl addLine []).reverse

/-- A file system with the entries of a listing made below the directory at `here`. -/
def plant (fs : FileSystem) (here : Location) (text : String) : FileSystem :=
  (parse text).foldl (fun fs planting => fs.plant here planting) (fs.putDirectories here)

end Exemplar.Listing
