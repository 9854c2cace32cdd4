/-
Exemplar.Utility.Contents.Palette — the colours of names.

Colours have names of two letters, and names of files that end in a certain way may have colours
too. A text gives them between colons, as in `di=01;34:*.txt=32`; a backslash or a caret in it
stands before a character that is hard to write.

  §1 palettes
  §2 texts of colours
  §3 reading palettes
-/
import Exemplar.FileSystem.Rights
import Exemplar.Kernel.Call
import Exemplar.Number.Integer

namespace Exemplar.Utility.Contents

/-! ## §1 Palettes -/

/-- The names that colours may have. -/
def colourNames : List String :=
  ["lc", "rc", "ec", "rs", "no", "fi", "di", "ln", "pi", "so", "bd", "cd", "mi", "or", "ex", "do",
   "su", "sg", "st", "ow", "tw", "ca", "mh", "cl"]

/-- What colours there are where nothing else is asked for. Not all names have one. -/
def usualColours : List (String × String) :=
  [("lc", "\x1b["), ("rc", "m"), ("rs", "0"), ("cl", "\x1b[K"), ("di", "01;34"), ("ln", "01;36"),
   ("cd", "01;33"), ("su", "37;41"), ("sg", "30;43"), ("ex", "01;32"), ("st", "37;44"),
   ("ow", "34;42"), ("tw", "30;42")]

/-- The colours: those with names, and those of names with certain endings. -/
structure Palette where
  named : List (String × String) := usualColours
  endings : List (String × String) := []

namespace Palette

/-- The text of a colour that has a name, if it was given one. -/
def text? (p : Palette) (name : String) : Option String := p.named.lookup name

/-- The text of a colour that has a name. -/
def text (p : Palette) (name : String) : String := (p.text? name).getD ""

/-- Whether a name is that of something that shows. -/
def isColoured (p : Palette) (name : String) : Bool := !(["", "0", "00"].contains (p.text name))

/-- Whether a link has the colour of what it leads to. -/
def followsLinks (p : Palette) : Bool := p.text "ln" = "target"

/-- The sequence for a colour. -/
def sequence (p : Palette) (colour : String) : String := p.text "lc" ++ colour ++ p.text "rc"

/-- The sequence that ends a colour. -/
def reset (p : Palette) : String := (p.text? "ec").getD (p.sequence (p.text "rs"))

/-- The sequence that is written last of all; there is none where it would do nothing. -/
def closing (p : Palette) : String :=
  if p.text "lc" = "\x1b[" && p.text "rc" = "m" then "" else p.sequence ""

/-- The colour for the ending of a name. What was given last counts first, and small letters are not
told from others. -/
def endingColour? (p : Palette) (name : String) : Option String :=
  let small (text : String) : List Char := text.toList.map Char.toLower
  let name := small name
  (p.endings.find? fun e => (small e.1).isSuffixOf name).map (·.2)

/-- The names of colours for what the rights show of what stands at a location, each with whether it
applies. -/
def kindsByRights (location : Location) (node : Node) : List (String × Bool) :=
  let has (bit : Nat) : Bool := (Rights.ofNode location node).testBit bit
  match node with
  | .directory => [("tw", has 9 && has 1), ("ow", has 1), ("st", has 9)]
  | .link _ => []
  | .file file => [("su", has 11), ("sg", has 10), ("ex", file.executable)]

/-- The name of the colour for all that is of the kind of what stands at a location. -/
def kindOf (location : Location) : Node → String
  | .directory => "di"
  | .link _ => "ln"
  | .file _ => if (Kernel.device? location).isSome then "cd" else "fi"

/-- The colour for a name of what stands at a location. What its rights show goes before its ending,
and that before its kind. -/
def colourOf? (p : Palette) (name : String) (found : Location × Node) : Option String :=
  let kind := kindOf found.1 found.2
  let shown := kindsByRights found.1 found.2
  match shown.find? fun (kind, applies) => applies && p.isColoured kind with
  | some (kind, _) => p.text? kind
  | none => (if kind = "fi" then p.endingColour? name else none).or (p.text? kind)

/-- The colour for a name that a link holds, given what is found there. -/
def goalColour? (p : Palette) (name : String) : Option (Location × Node) → Option String
  | some found => p.colourOf? name found
  | none => p.text? (if p.isColoured "mi" then "mi" else "or")

/-- The colour for a name of what is found, given what that leads to if it is a link. -/
def nameColour? (p : Palette) (name : String) (found : Location × Node)
    (goal : Option (Location × Node)) : Option String :=
  match found.2, goal with
  | .link _, none => p.text? (if p.followsLinks || p.isColoured "or" then "or" else "ln")
  | .link _, some goal => if p.followsLinks then p.colourOf? name goal else p.text? "ln"
  | _, _ => p.colourOf? name found

/-! ## §2 Texts of colours -/

/-- The character of a byte; of a larger number, only the last eight bits count. -/
def byteChar (n : Nat) : Char := Char.ofNat (n % 256)

/-- The characters that letters after a backslash stand for. -/
def letterEscapes : List (Char × Char) :=
  [('a', '\x07'), ('b', '\x08'), ('e', '\x1b'), ('f', '\x0c'), ('n', '\n'), ('r', '\r'),
   ('t', '\t'), ('v', '\x0b'), ('?', '\x7f'), ('_', ' ')]

/-- The character that is meant after a backslash, and what comes after it. Numbers have as many
digits as there are. -/
def escaped? (cs : List Char) : Option (Char × List Char) :=
  match Number.spanDigits 8 cs, cs with
  | (digits@(_ :: _), rest), _ => some (byteChar (Number.ofDigits 8 digits), rest)
  | ([], _), c :: cs =>
    if c = 'x' || c = 'X' then
      let (digits, rest) := Number.spanDigits 16 cs
      some (byteChar (Number.ofDigits 16 digits), rest)
    else some ((letterEscapes.lookup c).getD c, cs)
  | ([], _), [] => none

/-- The character that is meant after a caret, and what comes after it. A question mark counts
twice, for the last character of all and for itself. -/
def controlled? : List Char → Option (Char × List Char)
  | '?' :: cs => some ('\x7f', '?' :: cs)
  | c :: cs => if '@' ≤ c && c ≤ '~' then some (byteChar (c.toNat % 32), cs) else none
  | [] => none

/-- A text up to a colon, or up to an equals sign if that stops it, and what comes after it. -/
def readText (stopsAtEquals : Bool) : (fuel : Nat) → List Char → Option (List Char × List Char)
  | 0, _ => none
  | _, [] => some ([], [])
  | fuel + 1, c :: cs =>
    if c = ':' || (stopsAtEquals && c = '=') then some ([], c :: cs)
    else
      let meant := match c with
        | '\\' => escaped? cs
        | '^' => controlled? cs
        | c => some (c, cs)
      meant.bind fun (c, rest) =>
        (readText stopsAtEquals fuel rest).map fun (text, rest) => (c :: text, rest)

/-! ## §3 Reading palettes -/

/-- Why a text does not give colours. -/
inductive Fault where
  | unknownName (name : String)
  | broken

/-- Adds the colours that characters give to others. -/
def read : (fuel : Nat) → List Char → Palette → Except Fault Palette
  | 0, _, p => .ok p
  | _, [], p => .ok p
  | fuel + 1, ':' :: cs, p => read fuel cs p
  | fuel + 1, '*' :: cs, p =>
    match readText true (cs.length + 1) cs with
    | some (ending, '=' :: cs) =>
      match readText false (cs.length + 1) cs with
      | some (colour, rest) =>
        let entry := (String.ofList ending, String.ofList colour)
        read fuel rest { p with endings := entry :: p.endings }
      | none => .error .broken
    | _ => .error .broken
  | fuel + 1, first :: second :: '=' :: cs, p =>
    let name := String.ofList [first, second]
    match colourNames.contains name, readText false (cs.length + 1) cs with
    | true, some (colour, rest) =>
      read fuel rest { p with named := (name, String.ofList colour) :: p.named }
    | _, _ => .error (.unknownName name)
  | _, _, _ => .error .broken

/-- The colours that a text gives, and the usual ones where it gives none. -/
def ofText (text : String) : Except Fault Palette := read (text.length + 1) text.toList {}

end Palette

end Exemplar.Utility.Contents
