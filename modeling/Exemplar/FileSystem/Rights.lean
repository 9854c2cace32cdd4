/-
Exemplar.FileSystem.Rights — who may do what with a file.

Rights are bits: three each for the owner of a file, for its group and for all others, who may read
it, write it and execute it. Three more bits stand above them. Texts show rights with a letter or a
dash for each of the nine, and change them by clauses.

  §1 rights of nodes
  §2 shown rights
  §3 changed rights
-/
import Exemplar.FileSystem.Basic
import Exemplar.Text.Split

namespace Exemplar.Rights

/-! ## §1 Rights of nodes -/

/-- The directories in which all may write, and take away only what is their own. -/
def sharedDirectories : List Location :=
  [[.text "tmp"], [.text "tmp", .text "var"], [.text "lock", .text "run"]]

/-- The rights to what stands at a location. -/
def ofNode (location : Location) : Node → Nat
  | .directory => if sharedDirectories.contains location then 0o1777 else 0o755
  | .file file => file.rights
  | .link _ => 0o777

/-! ## §2 Shown rights -/

/-- Three of the bits as letters, with the letter that one of the upper bits has in the last
place if it is set, small if the place is taken. -/
def letters (bits : Nat) (isMarked : Bool) (mark : Char) : List Char :=
  let last :=
    if isMarked then (if bits.testBit 0 then mark else mark.toUpper)
    else if bits.testBit 0 then 'x'
    else '-'
  [if bits.testBit 2 then 'r' else '-', if bits.testBit 1 then 'w' else '-', last]

/-- Rights as nine letters. -/
def text (rights : Nat) : String :=
  String.ofList (letters (rights / 64) (rights.testBit 11) 's' ++
    letters (rights / 8) (rights.testBit 10) 's' ++ letters rights (rights.testBit 9) 't')

/-! ## §3 Changed rights -/

/-- For each of the owner, the group and the others, how far their bits are from the lowest. -/
def places : List (Char × List Nat) := [('u', [6]), ('g', [3]), ('o', [0]), ('a', [6, 3, 0])]

/-- Three bits put in several places. -/
def spread (bits : Nat) (shifts : List Nat) : Nat :=
  shifts.foldl (fun all shift => all ||| (bits % 8) <<< shift) 0

/-- The bits of one letter: those of who they are for, and the upper one, with `shifts` the places
that are changed; `X` stands for `x` if someone may execute the file. -/
def bitsOf? (old : Nat) (mayEnter : Bool) (shifts : List Nat) (letter : Char) : Option Nat :=
  match letter with
  | 'r' => some (spread 4 shifts)
  | 'w' => some (spread 2 shifts)
  | 'x' => some (spread 1 shifts)
  | 'X' => some (if mayEnter then spread 1 shifts else 0)
  | 'u' => some (spread (old / 64) shifts)
  | 'g' => some (spread (old / 8) shifts)
  | 'o' => some (spread old shifts)
  | 's' => some ((if shifts.contains 6 then 0o4000 else 0) |||
      (if shifts.contains 3 then 0o2000 else 0))
  | 't' => some (if shifts.contains 0 then 0o1000 else 0)
  | _ => none

/-- Changes rights as the actions of a clause say, which begin with `+`, `-` or `=`; only the bits
in `scope` are changed. -/
def act? (mayEnter : Bool) (shifts : List Nat) (scope : Nat) :
    (fuel : Nat) → Nat → List Char → Option Nat
  | _, rights, [] => some rights
  | 0, _, _ => none
  | fuel + 1, rights, op :: cs => do
    let (letters, rest) := cs.span fun c => c ≠ '+' && c ≠ '-' && c ≠ '='
    let bits ← letters.foldlM (fun all c =>
      (bitsOf? rights mayEnter shifts c).map (all ||| ·)) 0
    let bits := bits &&& scope
    let rights ← match op with
      | '+' => some (rights ||| bits)
      | '-' => some (rights &&& (0o7777 ^^^ bits))
      | '=' => some ((rights &&& (0o7777 ^^^ (scope &&& spread 7 shifts))) ||| bits)
      | _ => none
    act? mayEnter shifts scope fuel rights rest

/-- Changes rights as a clause says: who it is for, and actions. It is for all, but not for what is
`masked`, if it does not say so. -/
def clause? (masked : Nat) (mayEnter : Bool) (rights : Nat) (clause : List Char) : Option Nat := do
  let (who, actions) := clause.span fun c => (places.lookup c).isSome
  if actions.isEmpty then none
  let shifts := if who.isEmpty then [6, 3, 0] else who.flatMap fun c => (places.lookup c).getD []
  let scope := if who.isEmpty then 0o7777 ^^^ masked else 0o7777
  act? mayEnter shifts scope actions.length rights actions

/-- The rights that a text asks for in the place of others: as a number to the base eight, or by
clauses between commas. -/
def change? (masked : Nat) (isDirectory : Bool) (rights : Nat) (text : String) : Option Nat :=
  let cs := text.toList
  if cs.isEmpty then none
  else if cs.all fun c => '0' ≤ c && c ≤ '7' then
    let number := cs.foldl (fun n c => n * 8 + (c.toNat - '0'.toNat)) 0
    if number ≤ 0o7777 then some number else none
  else (Text.split ',' text).foldlM (fun rights clause =>
    clause? masked (isDirectory || rights &&& 0o111 ≠ 0) rights clause.toList) rights

end Exemplar.Rights
