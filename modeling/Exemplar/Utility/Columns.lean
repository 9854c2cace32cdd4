/-
Exemplar.Utility.Columns — names in columns.

Names stand in as many columns as fit in a line, each as wide as its widest name and a gap. What is
arranged is not looked into: a name is anything with a width.

  §1 items
  §2 columns
  §3 lines
-/

namespace Exemplar.Utility.Columns

/-! ## §1 Items -/

/-- Something to arrange, with the number of cells that it takes. -/
structure Item (α : Type) where
  content : α
  width : Nat

/-- A part of what comes of it: something arranged, at a place in its line, or a text between. -/
inductive Part (α : Type) where
  | item (place : Nat) (content : α)
  | between (text : String)

/-! ## §2 Columns -/

/-- The least width of a column. -/
def leastWidth : Nat := 3

/-- The blanks between two columns. -/
def gap : Nat := 2

/-- The column in which the `i`th of `size` names stands, down the columns or across them. -/
def columnOf (down : Bool) (size count i : Nat) : Nat :=
  if down then i / ((size + count - 1) / count) else i % count

/-- How wide each of so many columns is, given how long the names are. -/
def widths (down : Bool) (lengths : List Nat) (count : Nat) : List Nat :=
  (List.range count).map fun column =>
    (lengths.zipIdx.filter fun (_, i) => columnOf down lengths.length count i = column).foldl
      (fun width (length, _) => max width (length + if column + 1 = count then 0 else gap))
      leastWidth

/-- The most columns that fit in lines shorter than `limit`. -/
def countFor (down : Bool) (limit : Nat) (lengths : List Nat) : Nat :=
  let most := min ((limit + leastWidth - 1) / leastWidth) lengths.length
  let fits (count : Nat) : Bool :=
    let all := widths down lengths count
    all.all (· = leastWidth) || all.foldl (· + ·) 0 < limit
  (((List.range (most + 1)).reverse.find? fun count => 1 < count && fits count)).getD 1

/-! ## §3 Lines -/

/-- Blanks and tabulators from one place in a line up to another. -/
def indent (tab : Nat) : (fuel : Nat) → (start stop : Nat) → String
  | 0, _, _ => ""
  | fuel + 1, start, stop =>
    if stop ≤ start then ""
    else if tab ≠ 0 && (start + 1) / tab < stop / tab then
      "\t" ++ indent tab fuel (start + tab - start % tab) stop
    else " " ++ indent tab fuel (start + 1) stop

/-- A line, given its names, how wide their columns are, and the place where it goes on. -/
def line {α : Type} (tab : Nat) : (place : Nat) → List (Item α) → List Nat → List (Part α)
  | place, name :: next :: names, width :: rest =>
    .item place name.content ::
      .between (indent tab width (place + name.width) (place + width)) ::
        line tab (place + width) (next :: names) rest
  | place, names, _ => (names.take 1).map fun name => .item place name.content

/-- Names in columns, each line with an ending. -/
def table {α : Type} (down : Bool) (limit tab : Nat) (ending : String) (names : List (Item α)) :
    List (Part α) :=
  let lengths := names.map (·.width)
  let count := countFor down limit lengths
  let rows := (names.length + count - 1) / count
  let columns := widths down lengths count
  let inRow (row : Nat) : List (Item α) := (names.zipIdx.filter fun (_, i) =>
    if down then i % rows = row else i / count = row).map Prod.fst
  (List.range rows).flatMap fun row =>
    line tab 0 (inRow row) columns ++ [.between ending]

/-- Names in a row with a separator after each but the last one; a line that would not be shorter
than `limit` is broken, unless there is no limit. -/
def row {α : Type} (separator : String) (limit : Nat) (ending : String) (names : List (Item α)) :
    List (Part α) :=
  let (parts, _) := names.foldl (fun (parts, place) name =>
    match place with
    | none => ([.item 0 name.content], some name.width)
    | some place =>
      if limit = 0 || place + name.width + 2 < limit then
        let place := place + 2
        (parts ++ [.between (separator ++ " "), .item place name.content],
          some (place + name.width))
      else (parts ++ [.between (separator ++ ending), .item 0 name.content], some name.width))
    ([], (none : Option Nat))
  parts ++ [.between ending]

end Exemplar.Utility.Columns
