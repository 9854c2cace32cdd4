/-
Exemplar.Image — what the content of a program file says about how to run it.

A program file is the image of a utility, or a script whose first line names the program that
interprets it. A script is run by that program, with the script's own path as an argument.

  §1 images and scripts
  §2 loading
-/
import Exemplar.FileSystem.Access

namespace Exemplar.Image

/-! ## §1 Images and scripts -/

/-- The bytes that every image starts with: the magic ones, and the kind of machine it is for. -/
def header : Bytes :=
  [0x7F, 0x45, 0x4C, 0x46, 2, 1, 1, 0, 0, 0, 0, 0, 0, 0, 0, 0, 2, 0, 62, 0, 1, 0, 0, 0]

/-- The image of a utility: the header and its name. -/
def ofUtility (name : String) : Bytes := header ++ Utf8.encode name

/-- The utility that an image holds. -/
def utility? (data : Bytes) : Option String :=
  if header.isPrefixOf data then Utf8.decode? (data.drop header.length) else none

/-- Whether a byte is one of a text: it steers nothing but white space, or the shift from one set of
characters to another. -/
def isTextByte (b : UInt8) : Bool := (9 ≤ b && b ≤ 15) || b = 27 || (32 ≤ b && b ≠ 127)

/-- Whether a file starts as a text does, up to the end of its first line or as far as it is looked
at. -/
def startsAsText (data : Bytes) : Bool := ((data.take 128).takeWhile (· ≠ 10)).all isTextByte

/-- How many bytes of a script are looked at. -/
def headSize : Nat := 256

/-- The first bytes of a script, filled up with zeros. -/
def headOf (data : Bytes) : Bytes :=
  (data ++ List.replicate headSize 0).take headSize

/-- Whether a byte is a space or a tabulator. -/
def isBlankByte (b : UInt8) : Bool := b = 32 || b = 9

/-- Whether a byte ends the name of an interpreter. -/
def endsName (b : UInt8) : Bool := isBlankByte b || b = 0

/-- The line that follows `#!`, without blanks at its end. It ends at a new line, if there is one
before any zero. It may also go on up to the last byte that is looked at, if what it starts with is
seen to end there. -/
def firstLine? (head : Bytes) : Option Bytes :=
  let trimmed (line : Bytes) : Bytes := (line.reverse.dropWhile isBlankByte).reverse
  match head.span (fun b => b ≠ 10 && b ≠ 0) with
  | (line, 10 :: _) => some (trimmed line)
  | _ =>
    if (head.dropWhile isBlankByte).any endsName then some (trimmed head.dropLast) else none

/-- The interpreter that a script names, and the argument it is given there. -/
def interpreter? (data : Bytes) : Option (String × Option String) :=
  match headOf data with
  | 0x23 :: 0x21 :: head =>
    match (firstLine? head).map (·.dropWhile isBlankByte) with
    | some (b :: line) =>
      let (program, rest) := (b :: line).span fun b => !endsName b
      let arg : Option Bytes := match rest with
        | [] => none
        | 0 :: _ => none
        | _ => some ((rest.dropWhile isBlankByte).takeWhile (· ≠ 0))
      some (Utf8.decodeLossy program, arg.map Utf8.decodeLossy)
    | _ => none
  | _ => none

/-! ## §2 Loading -/

/-- How many program files may be loaded one for another, up to the image of a utility. -/
def chainLimit : Nat := 6

/-- The file at a path, which has to be one that may be executed. An empty path is that of the
directory it is read from. -/
def programFile (fs : FileSystem) (here : Location) (path : String) : Except Cause File :=
  if path = "" then .error (.system .accessDenied)
  else match fs.stat here ⟨path⟩ with
    | .ok (.file file) => if file.executable then .ok file else .error (.system .accessDenied)
    | .ok _ => .error (.system .accessDenied)
    | .error cause => .error cause

/-- The utility that runs when a file is executed, given with its path, and the arguments it gets,
the first being its own name. At most `files` files may be loaded, this one and interpreters. -/
def loadFile (fs : FileSystem) (here : Location) :
    (files : Nat) → (path : String) → List String → File → Except Cause (String × List String)
  | 0, _, _, _ => .error (.system .linkLoop)
  | files + 1, path, argv, file =>
    match utility? file.data, interpreter? file.data with
    | some name, _ => .ok (name, argv)
    | none, some (program, arg) =>
      match programFile fs here program with
      | .ok next => loadFile fs here files program (program :: arg.toList ++ path :: argv.tail) next
      | .error cause => .error cause
    | none, none => .error (.system .notExecutable)

/-- The sizes of what a program is given, in bytes: its arguments and its variables; and how large
its stack may be, if there is a limit. -/
structure Burden where
  arguments : List Nat
  environment : List Nat
  stack : Option Nat

namespace Burden

/-- The shortest argument that is refused for its length, in bytes. -/
def textLimit : Nat := 131072

/-- The room that there is always, and that there is at most. -/
def leastRoom : Nat := 0x20000

@[inherit_doc leastRoom]
def greatestRoom : Nat := 0x600000

/-- The room that there is: a fourth of the stack, within bounds. -/
def room (burden : Burden) : Nat :=
  max leastRoom ((burden.stack.map fun stack => min greatestRoom (stack / 4)).getD greatestRoom)

/-- Whether a burden is too large, given the size of the path of the program. Each text takes one
byte more than it has, and one place of eight bytes in a list, which has to be smaller than the
room. -/
def isTooLarge (burden : Burden) (path : Nat) : Bool :=
  let texts := burden.arguments ++ burden.environment
  let places := 8 * (max burden.arguments.length 1 + burden.environment.length)
  texts.any (textLimit ≤ ·) || burden.room ≤ places ||
    burden.room < (texts.map (· + 1)).foldl (· + ·) (places + path + 1)

/-- The size of a variable: its name, a sign and its value. -/
def sizeOf (name value : Nat) : Nat := name + 1 + value

end Burden

/-- The utility that runs when the file at a path is executed, and the arguments it gets. -/
def load (fs : FileSystem) (here : Location) (path : String) (argv : List String)
    (burden : Burden) : Except Cause (String × List String) :=
  match programFile fs here path with
  | .ok file =>
    if burden.isTooLarge path.utf8ByteSize then .error (.system .argumentTooLong)
    else loadFile fs here chainLimit path argv file
  | .error cause => .error cause

/-- Loads the first of some paths that can be. When all have failed, `failure` is why: the last
error, unless one of them may not be executed, which is an error that stays. -/
def loadFirst (fs : FileSystem) (here : Location) (argv : List String) (burden : Burden)
    (failure : Errno) : List String → Except Cause (String × List String)
  | [] => .error (.system failure)
  | path :: rest =>
    match load fs here path argv burden with
    | .ok found => .ok found
    | .error (.system errno) =>
      if errno = .accessDenied || errno = .noEntry || errno = .notDirectory then
        loadFirst fs here argv burden (if failure = .accessDenied then failure else errno) rest
      else .error (.system errno)
    | .error cause => .error cause

end Exemplar.Image
