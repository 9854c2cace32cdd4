/-
Exemplar.Utility.Format — writing arguments, in a format or as they are: `printf` and `echo`.

  §1 escapes
  §2 numbers
  §3 directives
  §4 formats
  §5 arguments as they are
-/
import Exemplar.Number.Layout
import Exemplar.Utility.Basic

namespace Exemplar.Utility.Format

/-! ## §1 Escapes -/

/-- Ends the utility with a message. -/
def stop {α : Type} (message : String) : Tool α := do
  grumble message
  quit 1

/-- Writes the character of a code point; one that bytes cannot write, as they are read, is shown by
its number. -/
def writePoint (n : Nat) : Tool Unit := do
  let digits (least : Nat) : String :=
    String.ofList ((Number.digitsOf 16 n least).map Char.toUpper)
  let limit := match ← charset with
    | .ascii => 0x80
    | .utf8 => 0x110000
  if n < limit then say (Octets.ofText (String.singleton (Char.ofNat n)))
  else if n < 65536 then say ("\\u" ++ digits 4)
  else say ("\\U" ++ digits 8)

/-- Writes the character of an escape, given what follows on the backslash; gives what comes after
it. An octal number may have one zero more in front if `zero`. -/
def escape (zero : Bool) (cs : List Char) : Tool (List Char) := do
  let isOctal (c : Char) : Bool := '0' ≤ c && c ≤ '7'
  let isHex (c : Char) : Bool := Number.digitValue c < 16
  match cs with
  | [] =>
    say "\\"
    return []
  | c :: rest =>
    if c = 'x' then
      let digits := (rest.takeWhile isHex).take 2
      if digits.isEmpty then stop "missing hexadecimal number in escape"
      say (String.singleton (Char.ofNat (Number.ofDigits 16 digits)))
      return rest.drop digits.length
    else if isOctal c then
      let start := if zero && c = '0' then rest else c :: rest
      let digits := (start.takeWhile isOctal).take 3
      say (String.singleton (Char.ofNat (Number.ofDigits 8 digits % 256)))
      return start.drop digits.length
    else if c = 'c' then quit 0
    else if c = 'e' then
      say "\x1b"
      return rest
    else if c = '"' || c = '\\' then
      say (String.singleton c)
      return rest
    else match Quoting.escapeLetters.find? (·.2 = c) with
      | some (d, _) =>
        say (String.singleton d)
        return rest
      | none =>
        if c = 'u' || c = 'U' then
          let length := if c = 'u' then 4 else 8
          let digits := (rest.takeWhile isHex).take length
          if digits.length < length then stop "missing hexadecimal number in escape"
          let n := Number.ofDigits 16 digits
          if (n ≤ 0x9f && n ≠ 0x24 && n ≠ 0x40 && n ≠ 0x60) || (0xd800 ≤ n && n ≤ 0xdfff) then
            stop ("invalid universal character name \\" ++ String.singleton c ++
              String.ofList (Number.digitsOf 16 n length))
          writePoint n
          return rest.drop length
        else
          say (String.ofList ['\\', c])
          return rest

/-- Writes a text with its escapes replaced. -/
def sayEscaped : (fuel : Nat) → List Char → Tool Unit
  | 0, _ => pure ()
  | fuel + 1, cs => do
    match cs with
    | [] => pure ()
    | '\\' :: rest => sayEscaped fuel (← escape true rest)
    | cs =>
      let plain := cs.takeWhile (· ≠ '\\')
      say (String.ofList plain)
      sayEscaped fuel (cs.drop plain.length)

/-! ## §2 Numbers -/

/-- Says what is wrong with an argument that should be a number, given what comes after the number
in it and whether it was out of range. -/
def check (arg : String) (rest : List Char) (isOut : Bool) : Tool Unit := do
  let shown ← shownArgument arg
  if isOut then
    grumble (shown ++ ": Numerical result out of range")
    noteStatus 1
  else if !rest.isEmpty then
    grumble (shown ++ (if rest.length = arg.length then ": expected a numeric value"
      else ": value not completely converted"))
    noteStatus 1

/-- The number of a character after a quote, or of a byte that is part of none. What follows on it
is told of, except where strictness is asked for. -/
def quoted? (arg : String) : Tool (Option Nat) := do
  match arg.toList with
  | q :: c :: rest =>
    if q = '"' || q = '\x27' then
      let (number, rest) := match (← charset).glyphs (String.ofList (c :: rest)) with
        | ⟨octets, some char⟩ :: _ => (char.toNat, (c :: rest).drop octets.length)
        | _ => (c.toNat, rest)
      if !rest.isEmpty && !(← isStrict) then
        grumble ("warning: " ++ String.ofList rest ++
          ": character(s) following character constant have been ignored")
      return some number
    else return none
  | _ => return none

/-- The whole number that an argument writes, with a sign. -/
def signedOf (arg : String) : Tool Int := do
  match ← quoted? arg, Number.scan none arg.toList with
  | some n, _ => return n
  | none, none =>
    check arg arg.toList false
    return 0
  | none, some n =>
    let (value, isOut) := n.signed
    check arg n.rest isOut
    return value

/-- The whole number that an argument writes, without a sign. -/
def unsignedOf (arg : String) : Tool Nat := do
  match ← quoted? arg, Number.scan none arg.toList with
  | some n, _ => return n
  | none, none =>
    check arg arg.toList false
    return 0
  | none, some n =>
    let (value, isOut) := n.unsigned
    check arg n.rest isOut
    return value

/-- The number with a point that an argument writes. -/
def realOf (arg : String) : Tool Number.Real := do
  match ← quoted? arg, Number.Format.extended.scan arg.toList with
  | some n, _ => return .finite false n 0
  | none, none =>
    check arg arg.toList false
    return .finite false 0 0
  | none, some (value, isOut, rest) =>
    check arg rest isOut
    return value

/-! ## §3 Directives -/

/-- The letters that a directive may have, given its flags and whether it has a precision. -/
def lettersFor (flags : List Char) (hasPrecision : Bool) : List Char :=
  let without (letters : String) (cs : List Char) : List Char :=
    cs.filter fun c => !letters.toList.contains c
  let cs := "aAcdeEfFgGiosuxX".toList
  let cs := if flags.contains '\x27' || flags.contains 'I' then without "aAceEosxX" cs else cs
  let cs := if flags.contains '#' then without "cdisu" cs else cs
  let cs := if flags.contains '0' then without "cs" cs else cs
  if hasPrecision then without "c" cs else cs

/-- Reads a width or a precision; a star takes an argument. -/
def sizeAt (cs : List Char) (args : List String) (what : String) :
    Tool (Option Int × List Char × List String) := do
  match cs with
  | '*' :: rest =>
    match args with
    | [] => return (some 0, rest, [])
    | arg :: args =>
      let n ← signedOf arg
      if n < -2147483648 && what = "field width" || 2147483647 < n then
        stop ("invalid " ++ what ++ ": " ++ (← shownArgument arg))
      return (some n, rest, args)
  | cs =>
    let digits := cs.takeWhile Char.isDigit
    let size := if digits.isEmpty then none else some (Number.ofDigits 10 digits : Int)
    return (size, cs.drop digits.length, args)

/-- Writes an argument as a letter says. -/
def writeAs (layout : Number.Layout) (letter : Char) (arg : String) : Tool Unit := do
  let text : Number.Layout → String ← match letter with
    | 'c' => pure (·.pad (String.singleton (arg.toList.head?.getD '\x00')))
    | 's' => pure (·.text arg)
    | 'd' | 'i' =>
      let n ← signedOf arg
      pure (·.signed n)
    | 'o' | 'u' | 'x' | 'X' =>
      let n ← unsignedOf arg
      pure (·.unsigned letter n)
    | _ =>
      let value ← realOf arg
      pure (·.real letter .extended value)
  if layout.isTooLarge then stop ("cannot perform formatted output: " ++ Errno.overflow.text)
  say (text layout)

/-- Carries out a directive, after its sign; gives what comes after it, and the arguments that are
left. -/
def directive (cs : List Char) (args : List String) : Tool (List Char × List String) := do
  let arg := args.head?.getD ""
  match cs with
  | '%' :: rest =>
    say "%"
    return (rest, args)
  | 'b' :: rest =>
    sayEscaped (arg.length + 1) arg.toList
    return (rest, args.tail)
  | 'q' :: rest =>
    if !args.isEmpty then say (← shownName arg)
    return (rest, args.tail)
  | cs =>
    let flags := cs.takeWhile fun c => "I'-+ #0".toList.contains c
    let (width, after, args) ← sizeAt (cs.drop flags.length) args "field width"
    let layout := ({ flags } : Number.Layout).withWidth (width.getD 0)
    let (layout, after, args, hasPrecision) ← match after with
      | '.' :: after =>
        let (precision, after, args) ← sizeAt after args "precision"
        pure (layout.withPrecision (precision.getD 0), after, args, true)
      | after => pure (layout, after, args, false)
    let after := after.dropWhile fun c => "lLhjtz".toList.contains c
    match after with
    | letter :: rest =>
      if (lettersFor flags hasPrecision).contains letter then
        writeAs layout letter (args.head?.getD "")
        return (rest, args.tail)
      else
        let text := String.ofList (cs.take (cs.length - rest.length))
        stop ("%" ++ text ++ ": invalid conversion specification")
    | [] => stop ("%" ++ String.ofList cs ++ ": invalid conversion specification")

/-! ## §4 Formats -/

/-- Goes once through a format; gives the arguments that are left. -/
def passThrough : (fuel : Nat) → List Char → List String → Tool (List String)
  | 0, _, args => return args
  | fuel + 1, cs, args => do
    match cs with
    | [] => return args
    | '%' :: rest =>
      let (rest, args) ← directive rest args
      passThrough fuel rest args
    | '\\' :: rest => passThrough fuel (← escape false rest) args
    | cs =>
      let plain := cs.takeWhile fun c => c ≠ '%' && c ≠ '\\'
      say (String.ofList plain)
      passThrough fuel (cs.drop plain.length) args

/-- Goes through a format until the arguments are used up, or none of them is used. -/
def passes (format : List Char) : (fuel : Nat) → List String → Tool Unit
  | 0, _ => pure ()
  | fuel + 1, args => do
    let left ← passThrough (format.length + 1) format args
    if left.isEmpty then pure ()
    else if left.length = args.length then
      grumble ("warning: ignoring excess arguments, starting with " ++
        (← shownArgument (left.head?.getD "")))
    else passes format fuel left

/-- Writes its arguments in a format. -/
def writeFormatted (args : List String) : Tool Unit := do
  let args := match args with
    | "--" :: rest => rest
    | args => args
  match args with
  | [] => refuse "missing operand"
  | format :: args => passes format.toList (args.length + 1) args

/-- Writes its arguments in a format, or tells about itself. -/
def run : List String → Tool Unit := orTellAbout .printf writeFormatted

/-! ## §5 Arguments as they are -/

/-- Writes the character of an escape in an argument, given what follows on the backslash; gives
what comes after it. -/
def shortEscape (cs : List Char) : Tool (List Char) := do
  let isOctal (c : Char) : Bool := '0' ≤ c && c ≤ '7'
  let isHex (c : Char) : Bool := Number.digitValue c < 16
  match cs with
  | 'c' :: _ => quit 0
  | 'e' :: rest =>
    say "\x1b"
    return rest
  | 'x' :: rest =>
    let digits := (rest.takeWhile isHex).take 2
    say (if digits.isEmpty then "\\x"
      else String.singleton (Char.ofNat (Number.ofDigits 16 digits)))
    return rest.drop digits.length
  | '\\' :: rest =>
    say "\\"
    return rest
  | c :: rest =>
    if isOctal c then
      let start := if c = '0' then rest else c :: rest
      let digits := (start.takeWhile isOctal).take 3
      say (String.singleton (Char.ofNat (Number.ofDigits 8 digits % 256)))
      return start.drop digits.length
    else
      match Quoting.escapeLetters.find? (·.2 = c) with
      | some (d, _) => say (String.singleton d)
      | none => say (String.ofList ['\\', c])
      return rest
  | [] =>
    say "\\"
    return []

/-- Writes a text with the escapes of arguments replaced. -/
def sayArgument : (fuel : Nat) → List Char → Tool Unit
  | 0, _ => pure ()
  | fuel + 1, cs => do
    match cs with
    | [] => pure ()
    | '\\' :: rest => sayArgument fuel (← shortEscape rest)
    | cs =>
      let plain := cs.takeWhile (· ≠ '\\')
      say (String.ofList plain)
      sayArgument fuel (cs.drop plain.length)

/-- Whether an argument is made of the options about how arguments are written. -/
def isEchoOption (arg : String) : Bool :=
  match arg.toList with
  | '-' :: c :: cs => (c :: cs).all "neE".toList.contains
  | _ => false

/-- Writes its arguments, with blanks between them, as strictly as asked for. -/
def writeArguments (isStrict : Bool) (args : List String) : Tool Unit := do
  let hasOptions := !isStrict || args.head? = some "-n"
  let options := if hasOptions then args.takeWhile isEchoOption else []
  let letters := options.flatMap fun option => option.toList.tail
  let replaces := isStrict || (letters.filter (· ≠ 'n')).getLast? = some 'e'
  for (arg, i) in (args.drop options.length).zipIdx do
    if 0 < i then say " "
    if replaces then sayArgument (arg.length + 1) arg.toList else say arg
  if !letters.contains 'n' then say "\n"

/-- Writes its arguments, or tells about itself. Where the environment asks for strictness, escapes
are always replaced, and there are options only if the first is that no line end is written. -/
def echo (args : List String) : Tool Unit := do
  if ← isStrict then writeArguments true args
  else orTellAbout .echo (writeArguments false) args

end Exemplar.Utility.Format
