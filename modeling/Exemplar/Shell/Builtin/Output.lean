/-
Exemplar.Shell.Builtin.Output — writing arguments: `echo` and `printf`.

  §1 escapes
  §2 arguments of directives
  §3 formats
-/
import Exemplar.Number.Layout
import Exemplar.Shell.Builtin.Basic

namespace Exemplar.Shell.Output

/-! ## §1 Escapes -/

/-- The letters of escapes and the characters that they stand for. -/
def letters : List (Char × Char) :=
  [('\\', '\\'), ('a', '\x07'), ('b', '\x08'), ('e', '\x1b'), ('f', '\x0c'), ('n', '\n'),
   ('r', '\r'), ('t', '\t'), ('v', '\x0b')]

/-- Whether a character is an octal digit. -/
def isOctal (c : Char) : Bool := '0' ≤ c && c ≤ '7'

/-- The character that an escape stands for, given what follows on the backslash, and what comes
after the escape. What is no escape stands for the backslash. -/
def escape : List Char → Char × List Char
  | [] => ('\\', [])
  | c :: rest =>
    if isOctal c then
      let digits := ((c :: rest).takeWhile isOctal).take 3
      (Char.ofNat (Number.ofDigits 8 digits % 256), (c :: rest).drop digits.length)
    else match letters.lookup c with
      | some d => (d, rest)
      | none => ('\\', c :: rest)

/-- Goes on replacing the escapes of a text, after the characters `done`, which stand the last one
first. An octal number may have a zero before its three digits. -/
def unescapeFrom : (fuel : Nat) → (done : List Char) → List Char → List Char × Bool
  | 0, done, _ => (done.reverse, false)
  | fuel + 1, done, cs =>
    match cs with
    | [] => (done.reverse, false)
    | '\\' :: 'c' :: _ => (done.reverse, true)
    | '\\' :: rest =>
      let rest := match rest with
        | '0' :: d :: more => if isOctal d then d :: more else rest
        | rest => rest
      let (c, after) := escape rest
      unescapeFrom fuel (c :: done) after
    | c :: rest => unescapeFrom fuel (c :: done) rest

/-- A text with its escapes replaced, and whether it asks that nothing follow. -/
def unescape (text : String) : List Char × Bool :=
  unescapeFrom (text.length + 1) [] text.toList

/-- What `echo` writes: its arguments up to one that asks that nothing follow. -/
def echoText (last : String) : List String → String
  | [] => last
  | arg :: rest =>
    match unescape arg with
    | (text, true) => String.ofList text
    | (text, false) =>
      String.ofList text ++ (if rest.isEmpty then last else " " ++ echoText last rest)

/-- Writes its arguments. -/
def echo : List String → Act Nat
  | "-n" :: args => do
    say (echoText "" args)
    return 0
  | args => do
    say (echoText "\n" args)
    return 0

/-! ## §2 Arguments of directives -/

/-- How far `printf` has come: the arguments that are left, whether some were used, and the
status. -/
structure Course where
  args : List String
  used : Bool := false
  status : Nat := 0

/-- Takes the next argument. -/
def Course.next (course : Course) : Option String × Course :=
  match course.args with
  | [] => (none, course)
  | arg :: args => (some arg, { course with args, used := true })

/-- Says what is wrong with an argument that should be a number, given what comes after the number
in it and whether it was out of range; gives the status. -/
def checkNumber (arg : String) (rest : List Char) (isOut : Bool) (status : Nat) : Act Nat := do
  let complaint := if !rest.isEmpty then
      some (if rest.length = arg.length then ": expected numeric value"
        else ": not completely converted")
    else if isOut then some ": Numerical result out of range"
    else none
  match complaint with
  | none => return status
  | some complaint =>
    report (arg ++ complaint)
    return 1

/-- The number of a character after a quote. -/
def quotedNumber? (arg : String) : Option Nat :=
  match arg.toList with
  | q :: cs => if q = '"' || q = '\x27' then some ((cs.head?.map Char.toNat).getD 0) else none
  | [] => none

/-- Takes a whole number: its bits, read with a sign if it is `signed`. -/
def wholeArgument (signed : Bool) (course : Course) : Act (Nat × Course) := do
  match course.next with
  | (none, course) => return (0, course)
  | (some arg, course) =>
    match quotedNumber? arg, Number.scan none arg.toList with
    | some n, _ => return (n, course)
    | none, none =>
      return (0, { course with status := ← checkNumber arg arg.toList false course.status })
    | none, some n =>
      let (value, isOut) := if signed then
          let (value, isOut) := n.signed
          ((value % 0x10000000000000000).toNat, isOut)
        else n.unsigned
      return (value, { course with status := ← checkNumber arg n.rest isOut course.status })

/-- Takes a number with a point. -/
def realArgument (course : Course) : Act (Number.Real × Course) := do
  match course.next with
  | (none, course) => return (.finite false 0 0, course)
  | (some arg, course) =>
    match quotedNumber? arg, Number.Format.double.scan arg.toList with
    | some n, _ => return (.finite false n 0, course)
    | none, none =>
      return (.finite false 0 0,
        { course with status := ← checkNumber arg arg.toList false course.status })
    | none, some (value, isOut, rest) =>
      return (value, { course with status := ← checkNumber arg rest isOut course.status })

/-- Bits as a number with a sign: those of 64, or the last 32 of them. -/
def ofBits (width n : Nat) : Int := (n : Int).bmod (Number.twoTo width)

/-! ## §3 Formats -/

/-- Reads a width or a precision; a star takes an argument. -/
def sizeAt (cs : List Char) (course : Course) : Act (Option Int × List Char × Course) := do
  match cs with
  | '*' :: rest =>
    let (n, course) ← wholeArgument true course
    return (some (ofBits 32 n), rest, course)
  | cs =>
    let digits := cs.takeWhile Char.isDigit
    let size := if digits.isEmpty then none else some (Number.ofDigits 10 digits : Int)
    return (size, cs.drop digits.length, course)

/-- A text brought to the width and cut to the precision that a directive asks for, where it may
hold any characters. -/
def writeDirective (layout : Number.Layout) (letter : Char) (course : Course) :
    Act (Course × Bool) := do
  let write (text : Number.Layout → String) (course : Course) (stops : Bool := false) :
      Act (Course × Bool) := do
    if layout.isTooLarge then fail "xvsnprintf failed"
    say (text layout)
    return (course, stops)
  if letter = 'b' then
    let (arg, course) := course.next
    let (text, stops) := unescape (arg.getD "")
    write (·.text (String.ofList text)) course stops
  else if letter = 'c' then
    let (arg, course) := course.next
    write (·.pad (String.singleton ((arg.getD "").toList.head?.getD '\x00'))) course
  else if letter = 's' then
    let (arg, course) := course.next
    write (·.text (arg.getD "")) course
  else if letter = 'd' || letter = 'i' then
    let (n, course) ← wholeArgument true course
    write (·.signed (ofBits 64 n)) course
  else if "ouxX".toList.contains letter then
    let (n, course) ← wholeArgument false course
    write (·.unsigned letter n) course
  else
    let (value, course) ← realArgument course
    write (·.real letter .double value) course

/-- Reads a directive up to its letter. -/
def directive (cs : List Char) (course : Course) :
    Act (Number.Layout × List Char × Course) := do
  let flags := cs.takeWhile fun c => "#-+ 0".toList.contains c
  let (width, cs, course) ← sizeAt (cs.drop flags.length) course
  let layout := ({ flags } : Number.Layout).withWidth (width.getD 0)
  match cs with
  | '.' :: rest =>
    let (precision, rest, course) ← sizeAt rest course
    return (layout.withPrecision (precision.getD 0), rest, course)
  | cs => return (layout, cs, course)

/-- Goes once through a format; gives also whether nothing may follow. -/
def passThrough : (fuel : Nat) → List Char → Course → Act (Course × Bool)
  | 0, _, course => return (course, false)
  | fuel + 1, cs, course => do
    match cs with
    | [] => return (course, false)
    | '\\' :: rest =>
      let (c, rest) := escape rest
      say (String.singleton c)
      passThrough fuel rest course
    | '%' :: '%' :: rest =>
      say "%"
      passThrough fuel rest course
    | '%' :: rest =>
      let (layout, after, course) ← directive rest course
      match after with
      | [] => fail "missing format character"
      | letter :: after =>
        if "bcsdiouxXaAeEfFgG".toList.contains letter then
          let (course, stops) ← writeDirective layout letter course
          if stops then return (course, true) else passThrough fuel after course
        else
          let text := String.ofList (rest.take (rest.length - after.length))
          fail ("%" ++ text ++ ": invalid directive")
    | c :: rest =>
      let plain := (c :: rest).takeWhile fun c => c ≠ '\\' && c ≠ '%'
      say (String.ofList plain)
      passThrough fuel ((c :: rest).drop plain.length) course

/-- Goes through a format until the arguments are used up. -/
def passes (format : List Char) : (fuel : Nat) → Course → Act Nat
  | 0, course => return course.status
  | fuel + 1, course => do
    let (course, stops) ← passThrough (format.length + 1) format { course with used := false }
    if stops || !course.used || course.args.isEmpty then return course.status
    else passes format fuel course

/-- Writes its arguments in a format. -/
def printf (args : List String) : Act Nat := do
  match ← operandsOf args with
  | [] => fail "usage: printf format [arg ...]"
  | format :: args => passes format.toList (args.length + 1) { args }

end Exemplar.Shell.Output
