/-
Exemplar.Utility.Sizes — sizes in bytes as they are shown.

A `Scale` says in which unit a size is shown. The unit may also be chosen to suit the size: then a
size below ten units has one more digit after a point. What does not come out even counts as more.

  §1 scales
  §2 shown sizes
  §3 scales as texts name them
-/
import Exemplar.Number.Integer

namespace Exemplar.Utility

/-! ## §1 Scales -/

/-- The unit of a size. -/
structure Scale where
  /-- The bytes of a unit. -/
  unit : Nat := 1
  /-- By how much a unit with a letter is larger than the one of the letter before. -/
  base : Nat := 1000
  /-- Whether the unit is chosen to suit the size. -/
  suits : Bool := false
  /-- Whether the letter of the unit is shown, and whether one for bytes after it. -/
  hasLetter : Bool := false
  hasByteLetter : Bool := false
  deriving DecidableEq, Repr

namespace Scale

/-- Bytes. -/
def bytes : Scale := {}

/-- Blocks of 1024 bytes. -/
def blocks : Scale := { unit := 1024 }

/-- Blocks of 512 bytes. -/
def smallBlocks : Scale := { unit := 512 }

/-- Units that suit the size, each 1024 of the one before. -/
def human : Scale := { base := 1024, suits := true, hasLetter := true }

/-- Units that suit the size, each a thousand of the one before. -/
def decimal : Scale := { suits := true, hasLetter := true }

/-! ## §2 Shown sizes -/

/-- The letters of the units above bytes. -/
def unitLetters : List Char := ['K', 'M', 'G', 'T', 'P', 'E', 'Z', 'Y']

/-- What stands after a number of units with a letter, given how many letters up the unit is. -/
def ending (scale : Scale) (power : Nat) : String :=
  let letter := match power with
    | 0 => []
    | n + 1 =>
      if scale.base ≠ 1024 && n = 0 then ['k'] else (unitLetters[n]?).toList
  let bytes := if !scale.hasByteLetter then []
    else if scale.base = 1024 && power ≠ 0 then ['i', 'B']
    else ['B']
  String.ofList (letter ++ bytes)

/-- A quotient, rounded up. -/
def quotientUp (a b : Nat) : Nat := (a + b - 1) / b

/-- A size in a unit that suits it: one of those up from `unit` with `letters` still above it. -/
def fitted (scale : Scale) (size : Nat) : (letters power unit : Nat) → String
  | 0, power, unit => toString (quotientUp size unit) ++ scale.ending power
  | letters + 1, power, unit =>
    if scale.base * unit ≤ size then fitted scale size letters (power + 1) (unit * scale.base)
    else if power ≠ 0 && quotientUp (size * 10) unit < 100 then
      let tenths := quotientUp (size * 10) unit
      toString (tenths / 10) ++ "." ++ toString (tenths % 10) ++ scale.ending power
    else if quotientUp size unit = scale.base then "1.0" ++ scale.ending (power + 1)
    else toString (quotientUp size unit) ++ scale.ending power

/-- How many letters up a unit is. -/
def powerOf (base unit : Nat) : (letters : Nat) → (power : Nat) → Nat
  | 0, _ => 0
  | letters + 1, power => if unit ≤ power then 0 else powerOf base unit letters (power * base) + 1

/-- A size as it is shown. -/
def shown (scale : Scale) (size : Nat) : String :=
  if scale.suits then scale.fitted size unitLetters.length 0 1
  else
    let number := toString (quotientUp size scale.unit)
    if scale.hasLetter then number ++ scale.ending (powerOf scale.base scale.unit 8 1) else number

/-! ## §3 Scales as texts name them -/

/-- Why a text names no scale. -/
inductive Fault where
  | noNumber
  /-- What stands after a number is no unit. -/
  | badEnding (number : Nat)
  | tooLarge
  deriving DecidableEq, Repr

/-- The greatest size of a unit. -/
def greatestUnit : Nat := 0xFFFFFFFFFFFFFFFF

/-- The unit of a text that names no scale, for those who do not ask whether it does. -/
def Fault.unit? : Fault → Option Nat
  | .noNumber => none
  | .badEnding number => some number
  | .tooLarge => some greatestUnit

/-- The factor that a unit's letters stand for, and the letters after them. It is a power of 1000
with `B` or `D` after the letter, and one of 1024 without or with `iB`. -/
def factor? : List Char → Option (Nat × List Char)
  | [] => some (1, [])
  | c :: cs =>
    let letter := if "kmgt".toList.contains c then c.toUpper else c
    let power (base : Nat) : Option Nat :=
      (unitLetters.findIdx? (· = letter)).map fun n =>
        (List.replicate (n + 1) base).foldl (· * ·) 1
    match cs with
    | 'B' :: rest | 'D' :: rest => (power 1000).map fun n => (n, rest)
    | 'i' :: 'B' :: rest => (power 1024).map fun n => (n, rest)
    | rest => (power 1024).map fun n => (n, rest)

/-- How the unit of a scale is shown that letters name without a number. -/
def named (unit : Nat) (letters : List Char) : Scale :=
  let endsWithByte := letters.getLast? = some 'B'
  let isDecimal := endsWithByte && letters.dropLast.getLast? ≠ some 'i'
  { unit, hasLetter := true, hasByteLetter := endsWithByte
    base := if isDecimal then 1000 else 1024 }

/-- The unit that a text names as a number, by letters, or as a number of what letters name. -/
def unitOf (cs : List Char) : Except Fault Nat := do
  let scanned := Number.scan none cs
  let letters := (scanned.map (·.rest)).getD cs
  let isUnit := letters.head?.any fun c => "eEgGkKmMpPtTyYzZ".toList.contains c
  if (scanned.map (·.negative)).getD false || (scanned.isNone && !isUnit) then throw .noNumber
  let number := min ((scanned.map (·.size)).getD 1) greatestUnit
  let (factor, rest) := (factor? letters).getD (1, letters)
  let unit := min (number * factor) greatestUnit
  if unit = 0 then throw .noNumber
  if !rest.isEmpty then throw (.badEnding unit)
  if greatestUnit < (scanned.map (·.size)).getD 1 * factor then throw .tooLarge
  return unit

/-- The scale that a text names: one that suits sizes by its name, which may be shortened, or a
unit. -/
def ofText (text : String) : Except Fault Scale := do
  let cs := match text.toList with
    | '\x27' :: cs => cs
    | cs => cs
  if !cs.isEmpty && cs.isPrefixOf "human-readable".toList then return human
  if !cs.isEmpty && cs.isPrefixOf "si".toList then return decimal
  let unit ← unitOf cs
  return if cs.any Char.isDigit then { unit } else named unit cs

/-- What is said of a text that names no scale. -/
def Fault.message (option text : String) : Fault → String
  | .noNumber => "invalid " ++ option ++ " argument '" ++ text ++ "'"
  | .badEnding _ => "invalid suffix in " ++ option ++ " argument '" ++ text ++ "'"
  | .tooLarge => option ++ " argument '" ++ text ++ "' too large"

end Scale

end Exemplar.Utility
