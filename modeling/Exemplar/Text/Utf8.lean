/-
Exemplar.Text.Utf8 — texts as bytes.

`encode` writes a text in UTF-8. Reading goes byte by byte through `feed`, a machine that remembers
the sequence it is in; its result is a list of pieces, each a character or a broken sequence. A
broken sequence is as long as it could have been the start of a character: the byte that breaks it
starts the next piece. `decode?` accepts the bytes with no broken piece, `decodeLossy` accepts all
and shows each broken piece as U+FFFD.

  §1 writing
  §2 the reading machine
  §3 reading
-/

namespace Exemplar

/-- Raw content of a file or a stream. -/
abbrev Bytes := List UInt8

namespace Utf8

/-! ## §1 Writing -/

/-- The UTF-8 form of a text. -/
def encode (s : String) : Bytes :=
  s.toList.flatMap String.utf8EncodeChar

/-! ## §2 The reading machine -/

/-- What a stretch of bytes stands for. -/
inductive Piece where
  | char (c : Char)
  | broken
  deriving DecidableEq, Repr

/-- A sequence of which the first bytes were read: the number of bytes still due, the range of the
next one, and the bits so far. -/
structure Open where
  due : Nat
  low : Nat
  high : Nat
  bits : Nat
  deriving DecidableEq, Repr

/-- What the first byte of a sequence says: the sequence it opens, or the piece it is. -/
def lead (byte : Nat) : Piece ⊕ Open :=
  if byte < 0x80 then .inl (.char (Char.ofNat byte))
  else if byte < 0xC2 then .inl .broken
  else if byte < 0xE0 then .inr ⟨1, 0x80, 0xBF, byte - 0xC0⟩
  else if byte = 0xE0 then .inr ⟨2, 0xA0, 0xBF, 0⟩
  else if byte = 0xED then .inr ⟨2, 0x80, 0x9F, byte - 0xE0⟩
  else if byte < 0xF0 then .inr ⟨2, 0x80, 0xBF, byte - 0xE0⟩
  else if byte = 0xF0 then .inr ⟨3, 0x90, 0xBF, 0⟩
  else if byte < 0xF4 then .inr ⟨3, 0x80, 0xBF, byte - 0xF0⟩
  else if byte = 0xF4 then .inr ⟨3, 0x80, 0x8F, byte - 0xF0⟩
  else .inl .broken

/-- What was read so far: the pieces, last one first, and the sequence that is open. -/
structure Reading where
  pieces : List Piece
  pending : Option Open
  deriving DecidableEq, Repr

/-- A byte at which no sequence is open. -/
def begin (pieces : List Piece) (byte : Nat) : Reading :=
  match lead byte with
  | .inl piece => ⟨piece :: pieces, none⟩
  | .inr seq => ⟨pieces, some seq⟩

/-- One more byte. -/
def feed (reading : Reading) (byte : UInt8) : Reading :=
  match reading.pending with
  | none => begin reading.pieces byte.toNat
  | some seq =>
    if seq.low ≤ byte.toNat && byte.toNat ≤ seq.high then
      let bits := seq.bits * 64 + (byte.toNat - 0x80)
      if seq.due ≤ 1 then ⟨.char (Char.ofNat bits) :: reading.pieces, none⟩
      else ⟨reading.pieces, some ⟨seq.due - 1, 0x80, 0xBF, bits⟩⟩
    else begin (.broken :: reading.pieces) byte.toNat

/-- The pieces at the end of the bytes, in order: a sequence still open is broken. -/
def Reading.close (reading : Reading) : List Piece :=
  match reading.pending with
  | none => reading.pieces.reverse
  | some _ => (.broken :: reading.pieces).reverse

/-! ## §3 Reading -/

/-- The pieces of a byte string. -/
def pieces (bytes : Bytes) : List Piece :=
  (bytes.foldl feed ⟨[], none⟩).close

/-- The character that stands for a piece. -/
def Piece.shown : Piece → Char
  | .char c => c
  | .broken => '\uFFFD'

/-- Whether a piece is a character. -/
def Piece.isChar : Piece → Bool
  | .char _ => true
  | .broken => false

/-- The text of the bytes, each broken piece shown as U+FFFD. -/
def decodeLossy (bytes : Bytes) : String :=
  String.ofList ((pieces bytes).map Piece.shown)

/-- The text of the bytes, if they are UTF-8. -/
def decode? (bytes : Bytes) : Option String :=
  let read := pieces bytes
  if read.all Piece.isChar then some (String.ofList (read.map Piece.shown)) else none

end Utf8

end Exemplar
