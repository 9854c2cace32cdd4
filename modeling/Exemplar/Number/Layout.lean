/-
Exemplar.Number.Layout — texts and numbers laid out by directives.

A directive has flags, a width, a precision and a letter. The flags ask for a place on the left, a
sign, a space in place of a sign, zeros in front, or another form; the letter says what is written.

  §1 directives
  §2 texts and whole numbers
  §3 numbers with a point
-/
import Exemplar.Number.Binary

namespace Exemplar.Number

/-! ## §1 Directives -/

/-- A directive, up to its letter. -/
structure Layout where
  flags : List Char := []
  width : Nat := 0
  precision : Option Nat := none
  deriving Repr

namespace Layout

/-- Whether a number stands on the left of its field. -/
def isLeft (l : Layout) : Bool := l.flags.contains '-'

/-- Whether a field is filled up with zeros; on the right of a number it never is. -/
def hasZeros (l : Layout) : Bool := l.flags.contains '0' && !l.isLeft

/-- Whether the other form of a number is asked for, with a mark of its base or its point. -/
def isAlternate (l : Layout) : Bool := l.flags.contains '#'

/-- A layout with a width that was given as a number: a negative one asks for a place on the
left. -/
def withWidth (l : Layout) (width : Int) : Layout :=
  if width < 0 then { l with width := width.natAbs, flags := '-' :: l.flags }
  else { l with width := width.toNat }

/-- A layout with a precision that was given as a number: a negative one is none. -/
def withPrecision (l : Layout) (precision : Int) : Layout :=
  { l with precision := if precision < 0 then none else some precision.toNat }

/-- The greatest width or precision that can be kept to. -/
def greatestSize : Nat := 0x7FFFFFFF

/-- Whether a width or a precision is too large to be kept to. -/
def isTooLarge (l : Layout) : Bool :=
  greatestSize < l.width || l.precision.any (greatestSize < ·)

/-- What stands in front of the digits of a number. -/
def sign (l : Layout) (negative : Bool) : String :=
  if negative then "-"
  else if l.flags.contains '+' then "+"
  else if l.flags.contains ' ' then " "
  else ""

/-- A text filled up to the width. -/
def pad (l : Layout) (text : String) : String :=
  let fill := String.ofList (List.replicate (l.width - text.length) ' ')
  if l.isLeft then text ++ fill else fill ++ text

/-- A text in two parts, filled up to the width with zeros between them if `zeros`. -/
def fill (l : Layout) (zeros : Bool) (front rest : String) : String :=
  if zeros then
    front ++ String.ofList (List.replicate (l.width - front.length - rest.length) '0') ++ rest
  else l.pad (front ++ rest)

/-! ## §2 Texts and whole numbers -/

/-- A text, cut to the precision. -/
def text (l : Layout) (s : String) : String :=
  l.pad (match l.precision with
    | some p => String.ofList (s.toList.take p)
    | none => s)

/-- Digits with zeros up to the precision; a zero with the precision zero has no digits. -/
def wholeDigits (l : Layout) (base n : Nat) : String :=
  if n = 0 && l.precision = some 0 then ""
  else String.ofList (digitsOf base n (l.precision.getD 1))

/-- A number with a sign. -/
def signed (l : Layout) (n : Int) : String :=
  l.fill (l.hasZeros && l.precision.isNone) (l.sign (n < 0)) (l.wholeDigits 10 n.natAbs)

/-- A number without a sign, by the letter that says its base. -/
def unsigned (l : Layout) (letter : Char) (n : Nat) : String :=
  let zeros := l.hasZeros && l.precision.isNone
  match letter with
  | 'o' =>
    let digits := l.wholeDigits 8 n
    l.fill zeros "" (if l.isAlternate && digits.front ≠ '0' then "0" ++ digits else digits)
  | 'x' => l.fill zeros (if l.isAlternate && n ≠ 0 then "0x" else "") (l.wholeDigits 16 n)
  | 'X' =>
    let digits := (l.wholeDigits 16 n).map Char.toUpper
    l.fill zeros (if l.isAlternate && n ≠ 0 then "0X" else "") digits
  | _ => l.fill zeros "" (l.wholeDigits 10 n)

/-! ## §3 Numbers with a point -/

/-- Digits on both sides of a point. The point stands only where digits follow, or `always`. -/
def pointed (always : Bool) (whole part : List Char) : String :=
  String.ofList whole ++
    (if part.isEmpty then (if always then "." else "") else "." ++ String.ofList part)

/-- A power as it stands at the end of a number: with its sign, and at least so many digits. -/
def powerText (letter : Char) (least : Nat) (power : Int) : String :=
  String.singleton letter ++ (if power < 0 then "-" else "+") ++
    String.ofList (digitsOf 10 power.natAbs least)

/-- Digits without the zeros at their end. -/
def dropZeros (digits : List Char) : List Char :=
  (digits.reverse.dropWhile (· = '0')).reverse

/-- A number in the short form: with as many digits as the precision asks for, in the form with a
power only where that is shorter, and without zeros at the end unless `always`. -/
def shortForm (always : Bool) (precision size : Nat) (exponent : Int) : String :=
  let precision := max precision 1
  let (digits, power) := scaledDigits size exponent (precision - 1)
  let trim (part : List Char) : List Char := if always then part else dropZeros part
  if power < -4 || (precision : Int) ≤ power then
    pointed always (digits.take 1) (trim (digits.drop 1)) ++ powerText 'e' 2 power
  else
    let (whole, part) := fixedDigits size exponent ((precision : Int) - 1 - power).toNat
    pointed always whole (trim part)

/-- The digits of a number in base sixteen: the first of them is written with `lead` binary digits,
and four more binary digits make each that follows. -/
def hexForm (always : Bool) (lead : Nat) (precision : Option Nat) (format : Format) (size : Nat)
    (exponent : Int) : String :=
  if size = 0 then
    pointed always ['0'] (List.replicate (precision.getD 0) '0') ++ powerText 'p' 1 0
  else
    -- All digits of the format, the first one set unless the number is too small for that.
    let shift := if lead = 1 && exponent = format.least then 0 else format.digits - 1 - size.log2
    let size := size * twoTo shift
    let power : Int := exponent - shift + ((format.digits - lead : Nat) : Int)
    let places := (format.digits - lead + 3) / 4
    let size := size * twoTo (4 * places - (format.digits - lead))
    let (size, places) := match precision with
      | some p =>
        if p < places then (roundQuotient size (twoTo (4 * (places - p))), p) else (size, places)
      | none => (size, places)
    let digits := digitsOf 16 size (places + 1)
    let (digits, power) :=
      if places + 1 < digits.length then (digits.dropLast, power + 4) else (digits, power)
    let (whole, part) := digits.splitAt (digits.length - places)
    let part := match precision with
      | some p => part ++ List.replicate (p - part.length) '0'
      | none => dropZeros part
    pointed always whole part ++ powerText 'p' 1 power

/-- How the digits of numbers in base sixteen are counted off: after the first binary digit, or in
fours from the start. -/
def hexLead (format : Format) : Nat := if format.digits % 4 = 0 then 4 else 1

/-- A number with a point, by the letter that says its form. -/
def real (l : Layout) (letter : Char) (format : Format) (value : Real) : String :=
  let upper (s : String) : String := if letter.isUpper then s.map Char.toUpper else s
  match value with
  | .infinite negative => l.pad (upper (l.sign negative ++ "inf"))
  | .undefined negative => l.pad (upper (l.sign negative ++ "nan"))
  | .finite negative size exponent =>
    let places := l.precision.getD 6
    match letter.toLower with
    | 'e' =>
      let (digits, power) := scaledDigits size exponent places
      let text := pointed l.isAlternate (digits.take 1) (digits.drop 1) ++ powerText 'e' 2 power
      l.fill l.hasZeros (l.sign negative) (upper text)
    | 'g' =>
      l.fill l.hasZeros (l.sign negative) (upper (shortForm l.isAlternate places size exponent))
    | 'a' =>
      let text := hexForm l.isAlternate (hexLead format) l.precision format size exponent
      l.fill l.hasZeros (l.sign negative ++ upper "0x") (upper text)
    | _ =>
      let (whole, part) := fixedDigits size exponent places
      l.fill l.hasZeros (l.sign negative) (pointed l.isAlternate whole part)

end Layout

end Exemplar.Number
