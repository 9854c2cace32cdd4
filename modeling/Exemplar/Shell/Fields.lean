/-
Exemplar.Shell.Fields — cutting what words expand to into fields.

A word expands to cells, each a character or a quotation mark. Some stretches of cells came from
expansions that were not quoted, and in these the characters of `IFS` divide fields; in the
stretches of `"$@"` it is the ends of parameters that do, which are written as the character zero.

  §1 cells and stretches
  §2 separators
  §3 cutting
  §4 cutting a line for variables
-/
import Exemplar.Shell.Pattern

namespace Exemplar.Shell

/-! ## §1 Cells and stretches -/

/-- A part of what a word expands to. -/
inductive Cell where
  /-- A character; one that is quoted has no special meaning. -/
  | char (c : Char) (quoted : Bool)
  | mark
  deriving DecidableEq, Repr, Inhabited

/-- Cells from `start` up to before `stop` in which fields are divided; only at the ends of
parameters if `atEnds`. -/
structure Stretch where
  start : Nat
  stop : Nat
  atEnds : Bool
  deriving Repr

/-- What a word has expanded to so far. -/
structure Expanded where
  cells : Array Cell := #[]
  stretches : Array Stretch := #[]

namespace Expanded

/-- Adds characters. -/
def push (e : Expanded) (cs : List Char) (quoted : Bool) : Expanded :=
  { e with cells := cs.foldl (fun cells c => cells.push (.char c quoted)) e.cells }

/-- Notes that the cells from `start` on are a stretch. -/
def note (e : Expanded) (start : Nat) (atEnds : Bool := false) : Expanded :=
  { e with stretches := e.stretches.push ⟨start, e.cells.size, atEnds⟩ }

end Expanded

/-- The characters among cells. -/
def plainText (cells : List Cell) : String :=
  String.ofList (cells.filterMap fun
    | .char c _ => some c
    | .mark => none)

/-- The characters of a pattern that cells write. A character that is quoted stands for itself, and
so does one after a backslash that is not. -/
def patternChars : List Cell → List Marked
  | [] => []
  | .mark :: rest => patternChars rest
  | .char '\\' false :: .char c _ :: rest => (c, true) :: patternChars rest
  | .char c quoted :: rest => (c, quoted || c = '\\') :: patternChars rest

/-! ## §2 Separators -/

/-- The separators where `IFS` is not set. They are also those of which a run divides only once. -/
def blanks : List Char := [' ', '\t', '\n']

/-- Whether a character is a separator. The end of a parameter always is. -/
def isSeparator (separators : List Char) (c : Char) : Bool := c = '\x00' || separators.contains c

/-- Whether a separator divides only once in a run. -/
def isBlank (c : Char) : Bool := c = '\x00' || blanks.contains c

/-! ## §3 Cutting -/

/-- How far the cutting has come: the fields so far, the last one first; where the field begins that
is not ended; and whether the last stretch was divided at the ends of parameters only. -/
structure Cut where
  fields : List (List Cell) := []
  start : Nat := 0
  atEnds : Bool := false

/-- The cells from one place up to before another. -/
def cellsBetween (cells : Array Cell) (start stop : Nat) : List Cell :=
  (cells.extract start stop).toList

/-- The first place from `place` on, but not after `stop`, that does not follow on a separator with
it as one division; `free` says whether one that is not a blank may still belong to it. -/
def skipSeparators (separators : List Char) (cells : Array Cell) (stop : Nat) :
    (fuel : Nat) → (free : Bool) → (place : Nat) → Nat
  | 0, _, place => place
  | fuel + 1, free, place =>
    if stop ≤ place then place
    else match cells[place]? with
      | some (.char c _) =>
        if !isSeparator separators c then place
        else if isBlank c then skipSeparators separators cells stop fuel free (place + 1)
        else if free then skipSeparators separators cells stop fuel false (place + 1)
        else place
      | _ => place

/-- Cuts a stretch, from a place in it on. Where the stretch before it was divided at the ends of
parameters only, every separator divides by itself. -/
def cutStretch (separators : List Char) (cells : Array Cell) (stretch : Stretch) :
    (fuel : Nat) → (place : Nat) → Cut → Cut
  | 0, _, cut => cut
  | fuel + 1, place, cut =>
    if stretch.stop ≤ place then cut
    else
      let divides := match cells[place]? with
        | some (.char c _) =>
          if stretch.atEnds then c = '\x00' else isSeparator separators c
        | _ => false
      let single := stretch.atEnds || cut.atEnds
      let blank := match cells[place]? with
        | some (.char c _) => !single && isBlank c
        | _ => false
      if !divides then cutStretch separators cells stretch fuel (place + 1) cut
      else if place = cut.start && blank then
        cutStretch separators cells stretch fuel (place + 1) { cut with start := place + 1 }
      else
        let field := cellsBetween cells cut.start place
        let next := if single then place + 1
          else skipSeparators separators cells stretch.stop (stretch.stop - place) blank (place + 1)
        cutStretch separators cells stretch fuel next
          { cut with fields := field :: cut.fields, start := next }

/-- The fields of what a word has expanded to. -/
def fieldsOf (separators : List Char) (e : Expanded) : List (List Cell) :=
  let cut := e.stretches.foldl (fun (cut : Cut) stretch =>
    let rounds := stretch.stop - stretch.start + 1
    { cutStretch separators e.cells stretch rounds stretch.start cut with
      atEnds := stretch.atEnds }) {}
  let rest := cellsBetween e.cells cut.start e.cells.size
  (if rest.isEmpty && !cut.atEnds then cut.fields else rest :: cut.fields).reverse

/-! ## §4 Cutting a line for variables -/

/-- A character of a line, and whether it was quoted, so that it cannot be a separator. -/
abbrev LineChar := Char × Bool

/-- How far a line has been cut: the fields so far, the last one first; the field that is not ended,
its last character first; and how many more may be ended. -/
structure LineCut where
  fields : List (List Char) := []
  field : List Char := []
  left : Nat
  /-- Whether a blank has just ended a field, so that what follows may still belong to that end. -/
  afterBlank : Bool := false
  /-- Where the separators start that the last field ends with, if nothing else comes. -/
  trailing : Option Nat := none

namespace LineCut

/-- Takes the next character. A quoted one is always part of a field, but does not count as
something that comes after separators. -/
def step (separators : List Char) (cut : LineCut) (next : LineChar) : LineCut :=
  let (c, quoted) := next
  let separates := !quoted && separators.contains c
  let blank := separates && blanks.contains c
  let added := { cut with field := c :: cut.field, afterBlank := false }
  if quoted then added
  else if cut.left = 0 then
    if blank then { cut with
      field := c :: cut.field, trailing := cut.trailing.or (some cut.field.length) }
    else if separates && cut.afterBlank then added
    else { added with trailing := none }
  else if cut.afterBlank then
    if blank then cut
    else if separates then { cut with afterBlank := false }
    else added
  else if !separates then added
  else if blank && cut.field.isEmpty then cut
  else if cut.left = 1 then { cut with
    field := c :: cut.field, left := 0, afterBlank := blank, trailing := some cut.field.length }
  else { cut with
    fields := cut.field.reverse :: cut.fields, field := [], left := cut.left - 1
    afterBlank := blank }

/-- All fields, when the line is over. -/
def all (cut : LineCut) : List String :=
  let last := cut.field.reverse
  let last := match cut.trailing with
    | some start => last.take start
    | none => last
  ((last :: cut.fields).reverse).map String.ofList

end LineCut

/-- Cuts a line into at most so many fields. -/
def cutLine (separators : List Char) (count : Nat) (line : List LineChar) : List String :=
  (line.foldl (LineCut.step separators) { left := count }).all

end Exemplar.Shell
