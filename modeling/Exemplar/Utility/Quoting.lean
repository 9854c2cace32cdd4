/-
Exemplar.Utility.Quoting — texts as they are shown.

A text is shown in one of several styles: so that it could be pasted into a script, as a string of a
programming language, or between quotes as messages have them. In some styles quotes stand only
around what needs them.

  §1 styles
  §2 escapes
  §3 the styles with backslashes
  §4 the styles of scripts
  §5 all styles
-/
import Exemplar.Text.Charset

namespace Exemplar.Utility.Quoting

/-! ## §1 Styles -/

/-- How a text is shown. -/
inductive Style where
  /-- As it is. -/
  | plain
  /-- As a word of a script; `always` with quotes, and with escapes for what cannot be printed. -/
  | script (always escapes : Bool)
  /-- As a string between double quotes; these `always`, or only around what needs them. -/
  | string (always : Bool)
  /-- With escapes and no quotes. -/
  | escaped
  /-- Between the quotes of messages. -/
  | message
  /-- The same, but between double quotes where there are no others than those of ASCII. -/
  | doubleMessage
  deriving DecidableEq, Repr

/-- The quotes before and after a text. -/
def marksOf (set : Charset) : Style → List Char × List Char
  | .string _ => (['"'], ['"'])
  | .message => match set with
    | .ascii => (['\x27'], ['\x27'])
    | .utf8 => (['\xe2', '\x80', '\x98'], ['\xe2', '\x80', '\x99'])
  | .doubleMessage => match set with
    | .ascii => (['"'], ['"'])
    | .utf8 => (['\xe2', '\x80', '\x98'], ['\xe2', '\x80', '\x99'])
  | _ => ([], [])

/-! ## §2 Escapes -/

/-- The letters of escapes, by the characters that they stand for. -/
def escapeLetters : List (Char × Char) :=
  [('\x07', 'a'), ('\x08', 'b'), ('\x0c', 'f'), ('\n', 'n'), ('\r', 'r'), ('\t', 't'),
   ('\x0b', 'v')]

/-- The octal escape of a byte. -/
def octalEscape (c : Char) : List Char :=
  let n := c.toNat
  let digit (d : Nat) : Char := Char.ofNat (48 + d)
  ['\\', digit (n / 64), digit (n / 8 % 8), digit (n % 8)]

/-- The escape for a glyph that cannot be printed. -/
def escapeOf (g : Glyph) : List Char :=
  match g.char?.bind fun c => escapeLetters.lookup c with
  | some letter => ['\\', letter]
  | none => g.octets.flatMap octalEscape

/-! ## §3 The styles with backslashes -/

/-- A text with escapes between marks. A backslash also stands before the closing mark and before
the characters in `extra`. -/
def backslashed (marks : List Char × List Char) (extra : List Char) (gs : List Glyph) : String :=
  let shown (g : Glyph) : List Char :=
    if g.octets = marks.2 || g.is '\\' || g.char?.any extra.contains then '\\' :: g.octets
    else if g.isPrintable then g.octets
    else escapeOf g
  String.ofList (marks.1 ++ gs.flatMap shown ++ marks.2)

/-- Whether a text needs the quotes of a string. -/
def needsString (extra : List Char) (gs : List Glyph) : Bool :=
  gs.any fun g => g.is '"' || g.char?.any extra.contains || !g.isPrintable

/-! ## §4 The styles of scripts -/

/-- Whether a glyph has a meaning in scripts, given whether it is the first one and whether it is
the only one. -/
def isSpecial (isFirst isOnly : Bool) (g : Glyph) : Bool :=
  g.isAmong " !\"$&()*;<=>?[^|\\\x27\x60\n\r\t" || (isFirst && g.isAmong "#~") ||
    (isOnly && g.isAmong "\x7b\x7d")

/-- Whether a glyph means nothing between double quotes, given whether it is the first one. -/
def isTame (isFirst : Bool) (g : Glyph) : Bool :=
  if g.octets.length = 1 then
    g.char?.any fun c =>
      c.isAlphanum || " \x27%+,-./:]_@".toList.contains c || (isFirst && (c = '#' || c = '~'))
  else g.isPrintable

/-- How far the quoting of a word has come: what is written, with the last character first, and
whether an escape is open. -/
structure Scan where
  written : List Char := []
  isOpen : Bool := false

/-- Writes characters, after which an escape is open or not. -/
def Scan.write (scan : Scan) (cs : List Char) (isOpen : Bool) : Scan :=
  ⟨cs.foldl (fun written c => c :: written) scan.written, isOpen⟩

/-- Writes a glyph of a word between single quotes. A single quote stands outside of them, and
escapes stand between quotes of their own. -/
def Scan.step (escapes : Bool) (scan : Scan) (g : Glyph) : Scan :=
  if g.is '\x27' then scan.write "'\\''".toList false
  else if escapes && !g.isPrintable then
    scan.write ((if scan.isOpen then [] else "'$'".toList) ++ escapeOf g) true
  else scan.write ((if scan.isOpen then "''".toList else []) ++ g.octets) false

/-- A word between quotes: single ones, or double ones if it has a single quote and nothing that
means anything between double ones. A word with a single quote is looked through before it is
written, and an escape that is open at its end then counts as open at its start. -/
def quotedWord (escapes : Bool) (extra : List Char) (gs : List Glyph) : String :=
  let hasQuote := gs.any (·.is '\x27')
  if hasQuote && (gs.zipIdx.all fun (g, i) => isTame (i = 0) g) then
    backslashed (['"'], ['"']) extra gs
  else
    let first := gs.foldl (Scan.step escapes) {}
    let scan := if hasQuote then gs.foldl (Scan.step escapes) { isOpen := first.isOpen } else first
    String.ofList ('\x27' :: scan.written.reverse ++ ['\x27'])

/-- Whether a text needs quotes to be a word. -/
def needsWord (escapes : Bool) (extra : List Char) (gs : List Glyph) : Bool :=
  let isOnly : Bool := gs.length = 1
  gs.isEmpty || gs.zipIdx.any fun (g, i) =>
    isSpecial (i = 0) isOnly g || g.char?.any extra.contains ||
      (escapes && !g.isPrintable)

/-! ## §5 All styles -/

/-- A text in a style; the characters in `extra` are quoted too. -/
def shown (set : Charset) (style : Style) (extra : List Char) (text : String) : String :=
  let gs := set.glyphs text
  match style with
  | .plain => text
  | .script always escapes =>
    if always then quotedWord escapes extra gs
    else if needsWord escapes extra gs then quotedWord escapes [] gs
    else text
  | .string always =>
    if always then backslashed (marksOf set style) extra gs
    else if needsString extra gs then backslashed (marksOf set style) [] gs
    else text
  | style => backslashed (marksOf set style) extra gs

/-- The style in which messages show names of files: with quotes, and so that it could be pasted. -/
def Style.name : Style := .script true true

/-- The same, with quotes only where they are needed. -/
def Style.bareName : Style := .script false true

end Exemplar.Utility.Quoting
