/-
Exemplar.Text.Charset — which characters bytes write.

Variables of the environment say how bytes are to be read: each by itself, where only those of ASCII
are characters, or as UTF-8. A `Glyph` is what a reader then sees: a character with the bytes that
write it, or a byte that belongs to no character.

  §1 character sets
  §2 glyphs
  §3 reading
-/
import Exemplar.Text.CellWidth
import Exemplar.Text.Octets
import Exemplar.Text.Unassigned

namespace Exemplar

/-! ## §1 Character sets -/

/-- How bytes are read. -/
inductive Charset where
  | ascii
  | utf8
  deriving DecidableEq, Repr

namespace Charset

/-- What is known as a locale: the name of a language or none, and a character set. -/
def ofLocale? (name : String) : Option Charset :=
  if name = "" || name = "C" || name = "POSIX" then some .ascii
  else match name.toList with
    | 'C' :: '.' :: set =>
      let letters := (set.filter Char.isAlphanum).map Char.toLower
      if letters = "utf8".toList then some .utf8 else none
    | _ => none

/-- The parts of a locale, each with a variable of its own. -/
def categories : List String :=
  ["LC_CTYPE", "LC_NUMERIC", "LC_TIME", "LC_COLLATE", "LC_MONETARY", "LC_MESSAGES", "LC_PAPER",
   "LC_NAME", "LC_ADDRESS", "LC_TELEPHONE", "LC_MEASUREMENT", "LC_IDENTIFICATION"]

/-- The character set that an environment asks for. One variable rules all parts of the locale, else
each has its own, and one stands for those that are not set. If any part is unknown, none counts. -/
def ofEnvironment (valueOf? : String → Option String) : Charset :=
  let given? (name : String) : Option String :=
    (valueOf? name).filter (· ≠ "")
  let localeOf (category : String) : String :=
    (((given? "LC_ALL").or (given? category)).or (given? "LANG")).getD "C"
  let sets := categories.map fun category => ofLocale? (localeOf category)
  if sets.contains none then .ascii else (ofLocale? (localeOf "LC_CTYPE")).getD .ascii

end Charset

/-! ## §2 Glyphs -/

/-- What bytes stand for: a character, or none if they are only a part of one. -/
structure Glyph where
  /-- The bytes, with one character for each. -/
  octets : List Char
  char? : Option Char
  deriving DecidableEq, Repr

namespace Glyph

/-- Whether a code point is one of a control character, or ends a line or a paragraph. -/
def isControl (c : Char) : Bool :=
  let n := c.toNat
  n < 0x20 || (0x7F ≤ n && n < 0xA0) || n = 0x2028 || n = 0x2029

/-- Whether a character can be printed. -/
def isPrintableChar (c : Char) : Bool :=
  !isControl c && (c.toNat < 0x378 || !Text.unassignedTable.holds c)

/-- Whether a glyph can be printed. -/
def isPrintable (g : Glyph) : Bool := g.char?.any isPrintableChar

/-- Whether a glyph is a certain character. -/
def is (g : Glyph) (c : Char) : Bool := g.char? = some c

/-- Whether a glyph is one of some characters. -/
def isAmong (g : Glyph) (cs : String) : Bool := g.char?.any cs.toList.contains

end Glyph

/-! ## §3 Reading -/

namespace Charset

/-- What the first bytes write, a character or the start of one at the end, and how many they are.
-/
def glyphAt? : List Char → Option (Option Char × Nat)
  | [] => none
  | c :: cs =>
    match Utf8.lead c.toNat with
    | .inl (.char c) => some (some c, 1)
    | .inl .broken => none
    | .inr seq =>
      let tail := cs.take seq.due
      let fits := tail.zipIdx.all fun (c, i) =>
        if i = 0 then seq.low ≤ c.toNat && c.toNat ≤ seq.high
        else 0x80 ≤ c.toNat && c.toNat ≤ 0xBF
      if !fits then none
      else if tail.length < seq.due then some (none, tail.length + 1)
      else
        let bits := tail.foldl (fun bits c => bits * 64 + (c.toNat - 0x80)) seq.bits
        some (some (Char.ofNat bits), seq.due + 1)

/-- The glyphs of bytes read as UTF-8, the first `skip` bytes left out. -/
def utf8Glyphs : (skip : Nat) → List Char → List Glyph
  | _, [] => []
  | skip + 1, _ :: cs => utf8Glyphs skip cs
  | 0, c :: cs =>
    match glyphAt? (c :: cs) with
    | some (char?, count) => ⟨(c :: cs).take count, char?⟩ :: utf8Glyphs (count - 1) cs
    | none => ⟨[c], none⟩ :: utf8Glyphs 0 cs

/-- The glyphs of bytes. -/
def glyphs (set : Charset) (octets : String) : List Glyph :=
  match set with
  | .ascii => octets.toList.map fun c => ⟨[c], if c.toNat < 128 then some c else none⟩
  | .utf8 => utf8Glyphs 0 octets.toList

/-- How many cells of a terminal bytes take. A byte that belongs to no character takes one if they
are read as UTF-8, and none if each byte is read by itself; what cannot be printed takes none. -/
def widthOf (set : Charset) (octets : String) : Nat :=
  (set.glyphs octets).foldl (fun width g =>
    width + match g.char? with
      | some c =>
        if g.isPrintable then Text.cellWidth c else if Glyph.isControl c then 0 else 1
      | none => if set = .utf8 then 1 else 0) 0

end Charset

end Exemplar
