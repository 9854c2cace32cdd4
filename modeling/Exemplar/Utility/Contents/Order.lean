/-
Exemplar.Utility.Contents.Order — the order of what is listed.

Names are in the order of their bytes. The order of versions compares the numbers in names by their
values, and looks at what comes after a last dot only if nothing else differs.

  §1 the order of versions
  §2 entries in order
-/
import Exemplar.Utility.Contents.Entry

namespace Exemplar.Utility.Contents

/-! ## §1 The order of versions -/

/-- The rank of a place in a name between numbers: a tilde comes first, then the end, letters and
all else. -/
def rank : List Char → Int
  | [] => -1
  | c :: _ =>
    if c.isDigit then 0
    else if c.isAlpha then c.toNat
    else if c = '~' then -2
    else c.toNat + 256

/-- Compares names up to where both have a number or an end; gives what is left of them. -/
def compareWords : (fuel : Nat) → List Char → List Char → Ordering × List Char × List Char
  | 0, a, b => (.eq, a, b)
  | fuel + 1, a, b =>
    let goesOn (cs : List Char) : Bool := cs.head?.any fun c => !c.isDigit
    if goesOn a || goesOn b then
      match Ord.compare (rank a) (rank b) with
      | .eq => compareWords fuel a.tail b.tail
      | other => (other, a, b)
    else (.eq, a, b)

/-- Compares the numbers at the start of names; gives what is left of them. -/
def compareNumbers (a b : List Char) : Ordering × List Char × List Char :=
  let (x, a) := a.span Char.isDigit
  let (y, b) := b.span Char.isDigit
  (Ord.compare (Number.ofDigits 10 x) (Number.ofDigits 10 y), a, b)

/-- Compares names by words and numbers in turn. -/
def compareParts : (fuel : Nat) → List Char → List Char → Ordering
  | 0, _, _ => .eq
  | fuel + 1, a, b =>
    if a.isEmpty && b.isEmpty then .eq
    else
      match compareWords (a.length + b.length) a b with
      | (.eq, a, b) =>
        match compareNumbers a b with
        | (.eq, a, b) => compareParts fuel a b
        | (other, _, _) => other
      | (other, _, _) => other

/-- How many characters at the start of some belong to endings, each of them a dot, a letter or a
tilde, and letters, digits and tildes. -/
def endingsLength : (fuel : Nat) → List Char → Nat
  | fuel + 1, '.' :: c :: cs =>
    if c.isAlpha || c = '~' then
      let more := (cs.takeWhile fun c => c.isAlphanum || c = '~').length
      2 + more + endingsLength fuel (cs.drop more)
    else 0
  | _, _ => 0

/-- A name without the endings after its first character. -/
def withoutEndings (name : List Char) : List Char :=
  let start := ((List.range name.length).find? fun i =>
    i ≠ 0 && i + endingsLength name.length (name.drop i) = name.length).getD name.length
  name.take start

/-- Compares names as versions. Names with a dot in front come first. -/
def compareVersions (a b : List Char) : Ordering :=
  let group (name : List Char) : Nat := match name with
    | [] => 0
    | ['.'] => 1
    | ['.', '.'] => 2
    | '.' :: _ => 3
    | _ => 4
  match Ord.compare (group a) (group b) with
  | .eq =>
    if group a < 3 then .eq
    else
      let parts (a b : List Char) : Ordering := compareParts (a.length + b.length) a b
      (parts (withoutEndings a) (withoutEndings b)).then (parts a b)
  | other => other

/-! ## §2 Entries in order -/

/-- What a name has from its last dot on. -/
def endingOf (name : String) : String :=
  match name.toList.reverse.span (· ≠ '.') with
  | (after, _ :: _) => String.ofList ('.' :: after.reverse)
  | _ => ""

/-- Compares texts by their bytes. -/
def compareNames (a b : String) : Ordering := compareOfLessAndEq a b

/-- Compares entries by what they are sorted by, and by their names where that is the same;
`widthOf` says how wide a name is. -/
def compareEntries (s : Settings) (widthOf : Entry → Nat) (a b : Entry) : Ordering :=
  let byName := compareNames a.name b.name
  match s.orderBy with
  | .time => ((Ord.compare b.time.1 a.time.1).then (Ord.compare b.time.2 a.time.2)).then byName
  | .size => (Ord.compare b.size a.size).then byName
  | .ending => (compareNames (endingOf a.name) (endingOf b.name)).then byName
  | .width => (Ord.compare (widthOf a) (widthOf b)).then byName
  | .version => (compareVersions a.name.toList b.name.toList).then byName
  | .name | .unsorted => byName

/-- Entries in the order that is asked for. -/
def inOrder (s : Settings) (widthOf : Entry → Nat) (entries : List Entry) : List Entry :=
  if s.orderBy = .unsorted then entries
  else
    let precedes (a b : Entry) : Bool :=
      let (a, b) := if s.reversed then (b, a) else (a, b)
      (compareEntries s widthOf a b).isLE
    let sorted := entries.mergeSort precedes
    if s.directoriesFirst then
      sorted.filter (·.leadsToDirectory) ++ sorted.filter fun e => !e.leadsToDirectory
    else sorted

end Exemplar.Utility.Contents
