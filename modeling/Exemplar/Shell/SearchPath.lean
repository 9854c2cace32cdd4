/-
Exemplar.Shell.SearchPath — where the commands of a search path come from.

A search path has entries with colons between them. An entry is the name of a directory, empty for
the one that the script is in. A percent sign in it, with a word after it, says that the files of
the directory are not programs but define functions, or that the commands which a shell does by
itself come here.

  §1 entries
  §2 looking for a command
-/
import Exemplar.Kernel.Load

namespace Exemplar.Shell

/-! ## §1 Entries -/

/-- What an entry of a search path is there for. -/
inductive Supply where
  | programs
  | functions
  /-- The commands that a shell does by itself. -/
  | builtins
  deriving DecidableEq, Repr

/-- The supply that a word after a percent sign stands for, and what comes after the word. -/
def Supply.ofWord? (cs : List Char) : Option (Supply × List Char) :=
  [("builtin", Supply.builtins), ("func", Supply.functions)].findSome? fun (word, supply) =>
    if word.toList.isPrefixOf cs then some (supply, cs.drop word.length) else none

/-- An entry of a search path. -/
structure PathEntry where
  dir : String
  supply : Supply := .programs
  deriving DecidableEq, Repr

namespace PathEntry

/-- The entry that a text writes: the word comes after the name of the directory, or before it with
another percent sign between them that may be left out. Without such a word all is the name. -/
def ofText (text : String) : PathEntry :=
  let (dir, rest) := text.toList.span (· ≠ '%')
  match Supply.ofWord? rest.tail with
  | none => { dir := text }
  | some (supply, after) =>
    let inner := if after.head? = some '%' then after.tail else after
    { dir := String.ofList (if dir.isEmpty then inner else dir), supply }

/-- The path of a name in the directory of an entry. -/
def pathOf (entry : PathEntry) (name : String) : String :=
  if entry.dir = "" then name else entry.dir ++ "/" ++ name

end PathEntry

/-- The entries of a search path. -/
def pathEntries (searchPath : String) : List PathEntry :=
  (Text.split ':' searchPath).map PathEntry.ofText

/-- How many entries of a search path come before the first that starts with the word for what a
shell does by itself; zero also if there is none. -/
def entriesBefore (searchPath : String) : Nat :=
  let isBuiltins (text : String) : Bool := "%builtin".toList.isPrefixOf text.toList
  ((Text.split ':' searchPath).findIdx? isBuiltins).getD 0

/-! ## §2 Looking for a command -/

/-- A command that is looked for. -/
structure Quest where
  name : String
  /-- Whether a shell does it by itself. -/
  isBuiltin : Bool
  /-- Whether functions are passed over. -/
  direct : Bool
  /-- Which entry supplied it before the script changed its directory. -/
  before : Option Nat

/-- What a search comes to. -/
inductive Hit where
  | builtin
  /-- The entry that supplied it before still does. -/
  | same
  /-- The entry of a number has a program. -/
  | program (index : Nat)
  /-- The file of a path defines a function. -/
  | definition (path : String)
  | missing (errno : Errno)
  deriving DecidableEq, Repr

/-- Looks for a command in the entries from the one of a number on. What is found under a name that
starts at the root cannot have changed with the directory, so that earlier such entries are not
looked at again. If there is none, `failure` is why, or the last error that says more. -/
def Quest.search (q : Quest) (k : Kernel) (pid : Nat) :
    (index : Nat) → (failure : Errno) → List PathEntry → Hit
  | _, failure, [] => .missing failure
  | index, failure, entry :: rest =>
    let goOn (failure : Errno) : Hit := q.search k pid (index + 1) failure rest
    let path := entry.pathOf q.name
    let isKnown := path.front = '/' && q.before.any (index ≤ ·)
    if entry.supply = .builtins then if q.isBuiltin then .builtin else goOn failure
    else if entry.supply = .functions && q.direct then goOn failure
    else if isKnown then if q.before = some index then .same else goOn failure
    else match k.stat pid path with
      | .error errno => goOn (if isMissing errno then failure else errno)
      | .ok (_, .file file) =>
        if entry.supply = .functions then .definition path
        else if file.executable then .program index
        else goOn .accessDenied
      | .ok _ => goOn .accessDenied

end Exemplar.Shell
