/-
Exemplar.Utility.Contents.Lines — the lines of a list.

Names stand in lines of their own, in rows or in columns. In long lines there is before a name what
is known of the file, each thing as wide as the widest of its kind.

  §1 fields
  §2 long lines
  §3 all lines
-/
import Exemplar.Utility.Columns
import Exemplar.Utility.Contents.Label
import Exemplar.Utility.Contents.Order
import Exemplar.Utility.Dates

namespace Exemplar.Utility.Contents

/-! ## §1 Fields -/

/-- A text with blanks before it. -/
def padded (width : Nat) (text : String) : String := Date.filled ' ' width text

/-- A text with blanks after it. -/
def paddedAfter (width : Nat) (text : String) : String :=
  text ++ String.ofList (List.replicate (width - text.length) ' ')

/-- The width of the widest text for entries that could be looked at. -/
def widest (entries : List Entry) (text : Entry → String) : Nat :=
  (entries.filter (·.isKnown)).foldl (fun width e => max width (text e).length) 0

/-- A text that is known of an entry. -/
def known (e : Entry) (text : String) : String := if e.isKnown then text else "?"

/-- How much room an entry takes, as a text. -/
def roomText (s : Settings) (e : Entry) : String := s.blockScale.shown e.room

/-- How large an entry is, as a text. A device has its two numbers instead. -/
def sizeText (s : Settings) (e : Entry) : String :=
  match Kernel.device? e.location with
  | some device => device.numbers
  | none => s.sizeScale.shown e.size

/-- How many names what stands at an entry has: that of a directory is also in those below it. -/
def namesText (e : Entry) : String := toString (if e.isDirectory then e.below + 2 else 1)

/-- The owner of all files, and their group. -/
def ownerText (s : Settings) : String := if s.numeric then "0" else "root"

/-- What stands before a name in all kinds of lines: how much room the file takes, and its context,
which is not known. -/
def frontText (s : Settings) (entries : List Entry) (e : Entry) : String :=
  let width (w : Nat) : Nat := if s.inLines = .commas then 0 else w
  (if s.hasBlocks then
    padded (width (widest entries (roomText s))) (known e (roomText s e)) ++ " "
  else "") ++ if s.hasContext then "? " else ""

/-! ## §2 Long lines -/

/-- The seconds of half a year. -/
def halfYear : Nat := 15778476

/-- The time of an entry as a text. What is less than half a year old is shown another way. -/
def timeText (s : Settings) (e : Entry) : String :=
  let (old, recent) := s.timePatterns
  let isRecent := Entry.sessionTime < e.time.1 + halfYear && e.time.1 ≤ Entry.sessionTime
  if e.isKnown then Date.shown (if isRecent then recent else old) e.time.1
  else padded (Date.shown old 0).length "?"

/-- What stands before a name in a long line, up to its owner, and what comes after. -/
def longFront (s : Settings) (entries : List Entry) (e : Entry) : String × String :=
  let width (text : Entry → String) : Nat := widest entries text
  let room := if s.hasBlocks then padded (width (roomText s)) (known e (roomText s e)) ++ " "
    else ""
  let owner := paddedAfter (width fun _ => ownerText s) (known e (ownerText s)) ++ " "
  let owners := (if s.hasOwner then owner else "") ++ (if s.hasGroup then owner else "") ++
    (if s.hasAuthor then owner else "") ++ if s.hasContext then "? " else ""
  let upTo := room ++ e.rightsText ++ " " ++ padded (width namesText) (known e (namesText e)) ++ " "
  let after := padded (width (sizeText s)) (known e (sizeText s e)) ++ " " ++ timeText s e ++ " "
  if owners = "" then ("", upTo ++ after) else (upTo ++ owners, after)

/-- A long line without its end. -/
def longLine (t : Setting) (e : Entry) : List Piece :=
  let s := t.settings
  let (upTo, after) := longFront s t.entries e
  let front := t.opening ++ [.plain (upTo ++ after)] ++ t.namePieces after.length e
  match e.node, e.isKnown with
  | .link target, true =>
    let start := after.length + t.nameLength e.name + 4
    front ++ [.plain " -> "] ++ t.goalPieces start e (Octets.ofBytes target)
  | .link _, false => front
  | node, _ => front ++ [.plain (s.markOf node)]

/-! ## §3 All lines -/

/-- An entry as something to be arranged. -/
def itemOf (t : Setting) (e : Entry) : Columns.Item Entry :=
  let front := frontText t.settings t.entries e
  ⟨e, front.length + t.nameWidth e + (t.settings.markOf e.node).length⟩

/-- What is written for an entry at a place in a line. -/
def shortPieces (t : Setting) (place : Nat) (e : Entry) : List Piece :=
  t.opening ++ [.plain (frontText t.settings t.entries e)] ++ t.namePieces place e ++
    [.plain (t.settings.markOf e.node)]

/-- The lines of some of the entries, which are in order. -/
def linesOf (t : Setting) (entries : List Entry) : List Piece :=
  let s := t.settings
  let ending := s.lineEnding
  let items := entries.map (itemOf t)
  let pieces (parts : List (Columns.Part Entry)) : List Piece := parts.flatMap fun
    | .item place e => shortPieces t place e
    | .between text => [.plain text]
  if entries.isEmpty then []
  else match s.inLines with
    | .single => entries.flatMap fun e => shortPieces t 0 e ++ [.plain ending]
    | .long => entries.flatMap fun e => longLine t e ++ [.plain ending]
    | .commas => pieces (Columns.row "," s.lineWidth ending items)
    | .across => pieces (if s.lineWidth = 0 then Columns.row " " 0 ending items
        else Columns.table false s.lineWidth s.tabWidth ending items)
    | .down => pieces (if s.lineWidth = 0 then Columns.row " " 0 ending items
        else Columns.table true s.lineWidth s.tabWidth ending items)

end Exemplar.Utility.Contents
