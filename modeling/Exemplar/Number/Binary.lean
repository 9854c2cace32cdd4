/-
Exemplar.Number.Binary — numbers of the form m · 2^e, and the texts that write them.

A format says how many binary digits a number has and how far its exponent goes. Reading a text
gives the number of the format that is nearest to what the text writes; a tie goes to the even one.
Writing works on the exact value, so that no digit is wrong; there too a tie goes to the even digit.

  §1 values and formats
  §2 rounding
  §3 reading
  §4 digits
-/
import Exemplar.Number.Integer

namespace Exemplar.Number

/-! ## §1 Values and formats -/

/-- A number of binary digits. -/
inductive Real where
  /-- `size · 2^exponent`, with a sign. -/
  | finite (negative : Bool) (size : Nat) (exponent : Int)
  | infinite (negative : Bool)
  | undefined (negative : Bool)
  deriving DecidableEq, Repr

/-- How many digits numbers have, and the exponents of the last digit of the smallest and of the
first digit of the greatest number. -/
structure Format where
  digits : Nat
  least : Int
  greatest : Int

/-- The format of 64 bits. -/
def Format.double : Format := ⟨53, -1074, 1023⟩

/-- The format of 80 bits. -/
def Format.extended : Format := ⟨64, -16445, 16383⟩

/-- Two to some power. -/
def twoTo (n : Nat) : Nat := 1 <<< n

/-- Ten to some power. -/
def tenTo (n : Nat) : Nat := Nat.pow 10 n

/-! ## §2 Rounding -/

/-- The whole number that is nearest to a quotient; a tie goes to the even one. -/
def roundQuotient (num den : Nat) : Nat :=
  let q := num / den
  let r := num % den
  if 2 * r < den then q
  else if den < 2 * r then q + 1
  else if q % 2 = 0 then q else q + 1

/-- A fraction times two to some power, as a fraction. -/
def scaleFraction (num den : Nat) (power : Int) : Nat × Nat :=
  match power with
  | .ofNat n => (num * twoTo n, den)
  | .negSucc n => (num, den * twoTo (n + 1))

/-- The number of a format that is nearest to a fraction, and whether the fraction was out of the
range in which numbers have all their digits. -/
def Format.nearest (f : Format) (negative : Bool) (num den : Nat) : Real × Bool :=
  if num = 0 then (.finite negative 0 0, false)
  else
    let guess : Int := (num.log2 : Int) - (den.log2 : Int)
    let fits (e : Int) : Bool :=
      let (n, d) := scaleFraction num den (-e)
      d ≤ n
    let first := if fits guess then guess else guess - 1
    let exponent := max (first - (f.digits - 1 : Nat)) f.least
    let (n, d) := scaleFraction num den (-exponent)
    let size := roundQuotient n d
    let (size, exponent) :=
      if size = twoTo f.digits then (twoTo (f.digits - 1), exponent + 1) else (size, exponent)
    if f.greatest < exponent + (size.log2 : Int) then (.infinite negative, true)
    else
      let isSmall := size < twoTo (f.digits - 1)
      (.finite negative size exponent, isSmall && n % d ≠ 0)

/-! ## §3 Reading -/

/-- Digits with a point among them: the digits, how many of them stand after the point, and the
characters after them. -/
def spanPointed (base : Nat) (cs : List Char) : Option (List Char × Nat × List Char) :=
  let (whole, rest) := spanDigits base cs
  match rest with
  | '.' :: after =>
    let (part, rest') := spanDigits base after
    if whole.isEmpty && part.isEmpty then none else some (whole ++ part, part.length, rest')
  | _ => if whole.isEmpty then none else some (whole, 0, rest)

/-- An exponent after its letter, and the characters after it. Without digits there is none. -/
def spanExponent (letters : List Char) (cs : List Char) : Int × List Char :=
  match cs with
  | c :: rest =>
    if letters.contains c then
      let (negative, digits) := match rest with
        | '-' :: rest => (true, rest)
        | '+' :: rest => (false, rest)
        | rest => (false, rest)
      match spanDigits 10 digits with
      | ([], _) => (0, cs)
      | (ds, after) =>
        let n : Int := ofDigits 10 ds
        (if negative then -n else n, after)
    else (0, cs)
  | [] => (0, cs)

/-- Whether characters start with a word, in letters of any case. -/
def startsWithWord (word : String) (cs : List Char) : Bool :=
  word.toList.isPrefixOf (cs.map Char.toLower)

/-- The exponent beyond which every number is out of range, however many digits it has. -/
def exponentLimit : Nat := 20000

/-- The number at the start of some characters: its value in a format, whether it was out of range,
and the characters after it. -/
def Format.scan (f : Format) (cs : List Char) : Option (Real × Bool × List Char) :=
  let cs := cs.dropWhile isSpace
  let (negative, cs) := match cs with
    | '-' :: cs => (true, cs)
    | '+' :: cs => (false, cs)
    | cs => (false, cs)
  let decimal : Option (Real × Bool × List Char) :=
    (spanPointed 10 cs).map fun (digits, places, rest) =>
      let (exponent, rest) := spanExponent ['e', 'E'] rest
      let n := ofDigits 10 digits
      let power := exponent - places
      let (value, isOut) :=
        if n = 0 then (Real.finite negative 0 0, false)
        else if power + digits.length < -(exponentLimit : Int) then (.finite negative 0 0, true)
        else if (exponentLimit : Int) < power + digits.length then (.infinite negative, true)
        else match power with
          | .ofNat p => f.nearest negative (n * tenTo p) 1
          | .negSucc p => f.nearest negative n (tenTo (p + 1))
      (value, isOut, rest)
  if startsWithWord "infinity" cs then some (.infinite negative, false, cs.drop 8)
  else if startsWithWord "inf" cs then some (.infinite negative, false, cs.drop 3)
  else if startsWithWord "nan" cs then
    let rest := cs.drop 3
    let after := match rest with
      | '(' :: inside =>
        match inside.dropWhile (fun c => c.isAlphanum || c = '_') with
        | ')' :: after => after
        | _ => rest
      | _ => rest
    some (.undefined negative, false, after)
  else match cs with
    | '0' :: x :: hex =>
      if x = 'x' || x = 'X' then
        match spanPointed 16 hex with
        | none => decimal
        | some (digits, places, rest) =>
          let (exponent, rest) := spanExponent ['p', 'P'] rest
          let n := ofDigits 16 digits
          let power := exponent - 4 * (places : Int)
          let (value, isOut) :=
            if n = 0 then (Real.finite negative 0 0, false)
            else if power + 4 * digits.length < -(exponentLimit : Int) then
              (.finite negative 0 0, true)
            else if (exponentLimit : Int) < power + 4 * digits.length then
              (.infinite negative, true)
            else
              let (num, den) := scaleFraction n 1 power
              f.nearest negative num den
          some (value, isOut, rest)
      else decimal
    | _ => decimal

/-! ## §4 Digits -/

/-- Digits of a number, padded with zeros in front to a length. -/
def digitsOf (base n least : Nat) : List Char :=
  let digits := if n = 0 then ['0'] else Nat.toDigits base n
  List.replicate (least - digits.length) '0' ++ digits

/-- A number with so many decimal places: the digits before and after the point. -/
def fixedDigits (size : Nat) (exponent : Int) (places : Nat) : List Char × List Char :=
  let (num, den) := scaleFraction (size * tenTo places) 1 exponent
  let digits := digitsOf 10 (roundQuotient num den) (places + 1)
  digits.splitAt (digits.length - places)

/-- A number as digits with the point after the first one: so many digits after that, and the power
of ten that they are to be multiplied by. -/
def scaledDigits (size : Nat) (exponent : Int) (places : Nat) : List Char × Int :=
  if size = 0 then (List.replicate (places + 1) '0', 0)
  else
    let (num, den) := scaleFraction size 1 exponent
    let isBelow (power : Int) : Bool := match power with
      | .ofNat p => num < den * tenTo p
      | .negSucc p => num * tenTo (p + 1) < den
    let guess : Int := ((Nat.toDigits 10 num).length : Int) - (Nat.toDigits 10 den).length
    let power := if isBelow guess then guess - 1 else guess
    let n := match (places : Int) - power with
      | .ofNat p => roundQuotient (num * tenTo p) den
      | .negSucc p => roundQuotient num (den * tenTo (p + 1))
    let digits := digitsOf 10 n (places + 1)
    if digits.length = places + 2 then (digits.dropLast, power + 1) else (digits, power)

end Exemplar.Number
