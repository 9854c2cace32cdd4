/-
Exemplar.Utility.Contents.Label — names as they are listed.

A name is written in the style that is asked for, with a character after it that tells the kind of
file, and perhaps in the colour of that kind.

  §1 written names
  §2 marks
  §3 labels
-/
import Exemplar.Utility.Contents.Entry

namespace Exemplar.Utility.Contents

/-! ## §1 Written names -/

/-- A name with a question mark for everything that cannot be printed. -/
def masked (set : Charset) (name : String) : String :=
  String.ofList ((set.glyphs name).flatMap fun g => if g.isPrintable then g.octets else ['?'])

/-- The characters that are quoted because they could be taken for something else in a list. -/
def Settings.quotedToo (s : Settings) : List Char :=
  (if s.quoting = .escaped then [' '] else []) ++
    match s.marks with
    | .kinds => "*=>@|".toList
    | .kindsAndPrograms => "=>@|".toList
    | _ => []

/-- A name as it is written, given which characters are quoted too. -/
def Settings.writtenWith (s : Settings) (extra : List Char) (name : String) : String :=
  let text := Quoting.shown s.charset s.quoting extra name
  let mayMask := match s.quoting with
    | .plain | .script _ false => true
    | _ => false
  if s.hidesControls && mayMask then masked s.charset text else text

/-- A name as it is written in a list. -/
def Settings.written (s : Settings) (name : String) : String := s.writtenWith s.quotedToo name

/-- A name as it is written above a list, before a colon. -/
def Settings.heading (s : Settings) (name : String) : String := s.writtenWith [':'] name

/-- Whether a name is written with quotes around it, or otherwise not as it is. -/
def Settings.changes (s : Settings) (name : String) : Bool :=
  let text := Quoting.shown s.charset s.quoting s.quotedToo name
  text.front ≠ name.front || text.length ≠ name.length

/-! ## §2 Marks -/

/-- What stands after a name to tell what kind of file it is of. -/
def Settings.markOf (s : Settings) : Node → String
  | .directory => if s.marks = .none then "" else "/"
  | .link _ => if s.marks = .kinds || s.marks = .kindsAndPrograms then "@" else ""
  | .file file => if s.marks = .kindsAndPrograms && file.executable then "*" else ""

/-! ## §3 Labels -/

/-- A piece of what is written: a text as it is, or one that begins a colour. -/
inductive Piece where
  | plain (text : String)
  | colour (text : String)

/-- What entries that are listed together have in common: the settings, the entries themselves, and
whether any name has quotes. -/
structure Setting where
  settings : Settings
  entries : List Entry
  hasQuotes : Bool := entries.any fun e => settings.changes e.name

namespace Setting

/-- Whether a name gets a blank in the place of a quote. -/
def isMoved (t : Setting) (name : String) : Bool :=
  t.settings.aligns && t.hasQuotes && !t.settings.changes name

/-- What a name takes, in bytes. -/
def nameLength (t : Setting) (name : String) : Nat :=
  (t.settings.written name).length + if t.isMoved name then 1 else 0

/-- How many cells the name of an entry takes. -/
def nameWidth (t : Setting) (e : Entry) : Nat :=
  t.settings.charset.widthOf (t.settings.written e.name) + (if t.isMoved e.name then 1 else 0)

/-- What begins the colour of all that has no other, if there is such a colour. -/
def opening (t : Setting) : List Piece :=
  match t.settings.palette? with
  | some p => if p.isColoured "no" then [.colour (p.sequence (p.text "no"))] else []
  | none => []

/-- A name between what begins its colour and what ends it. It starts at a place in the line, and
where it goes beyond the end of the line, the rest of the new line is cleared. -/
def painted (t : Setting) (p : Palette) (colour? : Option String) (start : Nat) (name : String) :
    List Piece :=
  let text := t.settings.written name
  let hasNormal := p.isColoured "no"
  let limit := t.settings.lineWidth
  let last := start + t.nameLength name - 1
  let clearing := if limit ≠ 0 && start / limit ≠ last / limit then p.text "cl" else ""
  match colour? with
  | some colour =>
    let before := if hasNormal then p.sequence "" else ""
    [.colour (before ++ p.sequence colour), .plain text, .plain (p.reset ++ clearing)]
  | none => if hasNormal then [.plain text, .plain (p.reset ++ clearing)] else [.plain text]

/-- What a link leads to, where that counts. -/
def goal? (t : Setting) (e : Entry) : Option (Location × Node) :=
  if t.settings.resolves then e.goal else none

/-- The name of an entry, in its colour. -/
def namePieces (t : Setting) (start : Nat) (e : Entry) : List Piece :=
  .plain (if t.isMoved e.name then " " else "") :: match t.settings.palette? with
    | some p => t.painted p (p.nameColour? e.name (e.location, e.node) (t.goal? e)) start e.name
    | none => [.plain (t.settings.written e.name)]

/-- The name that a link holds, in the colour of what is found there, with a mark for that. -/
def goalPieces (t : Setting) (start : Nat) (e : Entry) (target : String) : List Piece :=
  let goal := t.goal? e
  (match t.settings.palette? with
    | some p => t.painted p (p.goalColour? target goal) start target
    | none => [.plain (t.settings.written target)]) ++
    [.plain ((goal.map fun found => t.settings.markOf found.2).getD "")]

end Setting

end Exemplar.Utility.Contents
