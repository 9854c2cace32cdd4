/-
Exemplar.Number.Integer — whole numbers as texts write them.

A number may have blanks and a sign in front. Where its start says in which base it is written, `0x`
stands before sixteen digits and `0` before eight. Values that do not fit into 64 bits are cut to
the nearest one that does.
-/

namespace Exemplar.Number

/-- Whether a character is white space of ASCII. -/
def isSpace (c : Char) : Bool := c = ' ' || ('\t' ≤ c && c ≤ '\r')

/-- The value of a digit, if it is one in some base up to 36. -/
def digitValue (c : Char) : Nat :=
  if c.isDigit then c.toNat - '0'.toNat
  else if 'a' ≤ c && c ≤ 'z' then c.toNat - 'a'.toNat + 10
  else if 'A' ≤ c && c ≤ 'Z' then c.toNat - 'A'.toNat + 10
  else 99

/-- The number that digits of a base write. -/
def ofDigits (base : Nat) (digits : List Char) : Nat :=
  digits.foldl (fun n c => n * base + digitValue c) 0

/-- The digits of a base at the start of some characters, and the characters after them. -/
def spanDigits (base : Nat) (cs : List Char) : List Char × List Char :=
  cs.span fun c => digitValue c < base

/-- A whole number as a text writes it: its sign, its size, and the characters after it. -/
structure Scanned where
  negative : Bool
  size : Nat
  rest : List Char
  deriving Repr

/-- The number at the start of some characters, in the base that its own start shows if `base` is
none. -/
def scan (base : Option Nat) (cs : List Char) : Option Scanned :=
  let cs := cs.dropWhile isSpace
  let (negative, cs) := match cs with
    | '-' :: cs => (true, cs)
    | '+' :: cs => (false, cs)
    | cs => (false, cs)
  let read (base : Nat) (cs : List Char) : Option Scanned :=
    match spanDigits base cs with
    | ([], _) => none
    | (digits, rest) => some ⟨negative, ofDigits base digits, rest⟩
  match base with
  | some base => read base cs
  | none =>
    match cs with
    | '0' :: x :: rest =>
      if x = 'x' || x = 'X' then (read 16 rest).or (some ⟨negative, 0, x :: rest⟩) else read 8 cs
    | cs => read 10 cs

/-- The greatest number of 64 bits with a sign. -/
def greatest : Nat := 0x7FFFFFFFFFFFFFFF

/-- The value, cut to 64 bits with a sign, and whether it had to be cut. -/
def Scanned.signed (s : Scanned) : Int × Bool :=
  let limit := if s.negative then greatest + 1 else greatest
  let size := min s.size limit
  (if s.negative then -(size : Int) else size, limit < s.size)

/-- The value as 64 bits without a sign, and whether it had to be cut. A sign turns it around. -/
def Scanned.unsigned (s : Scanned) : Nat × Bool :=
  let all := 0xFFFFFFFFFFFFFFFF
  if all < s.size then (all, true)
  else (if s.negative then (all + 1 - s.size) % (all + 1) else s.size, false)

end Exemplar.Number
