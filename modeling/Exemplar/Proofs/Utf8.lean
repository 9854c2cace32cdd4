/-
Exemplar.Proofs.Utf8 — what is read as UTF-8 is what was written.

A character is spelled by one byte, or by a byte that opens a sequence and the bytes that complete
it. Writing spells each character so, and no other bytes spell it: the range of the byte after the
first one leaves out the longer spellings and the code points that are no characters. The machine
that reads comes through a spelling with its character, and without a spelling it breaks. So bytes
are read as a text exactly if they are that text, written.

  §1 spellings
  §2 the spelling of a character
  §3 bytes below 0x80
  §4 reading spellings
  §5 bytes that are a text
-/
import Exemplar.Text.Utf8

namespace Exemplar.Utf8

/-! ## §1 Spellings -/

/-- Whether bytes complete an open sequence, and for which code point. -/
inductive Completes : Open → Bytes → Nat → Prop
  | last {seq : Open} {byte : UInt8} {code : Nat} (hdue : seq.due ≤ 1)
      (hlow : seq.low ≤ byte.toNat) (hhigh : byte.toNat ≤ seq.high)
      (hcode : code = seq.bits * 64 + (byte.toNat - 0x80)) : Completes seq [byte] code
  | more {seq : Open} {byte : UInt8} {rest : Bytes} {code : Nat} (hdue : 1 < seq.due)
      (hlow : seq.low ≤ byte.toNat) (hhigh : byte.toNat ≤ seq.high)
      (hrest : Completes ⟨seq.due - 1, 0x80, 0xBF, seq.bits * 64 + (byte.toNat - 0x80)⟩ rest code) :
      Completes seq (byte :: rest) code

/-- Whether bytes spell a code point. -/
inductive Spells : Bytes → Nat → Prop
  | single {byte : UInt8} {code : Nat} (hbyte : byte.toNat < 0x80) (hcode : code = byte.toNat) :
      Spells [byte] code
  | sequence {byte : UInt8} {seq : Open} {rest : Bytes} {code : Nat}
      (hlead : lead byte.toNat = .inr seq) (hrest : Completes seq rest code) :
      Spells (byte :: rest) code

/-! The first bytes of sequences, by the length of what they open. -/

variable {byte : Nat} {seq : Open}

theorem lead_two (hlow : 0xC2 ≤ byte) (hhigh : byte < 0xE0) :
    lead byte = .inr ⟨1, 0x80, 0xBF, byte - 0xC0⟩ := by
  rw [lead, if_neg (by omega), if_neg (by omega), if_pos hhigh]

theorem lead_three (hlow : 0xE0 ≤ byte) (hhigh : byte < 0xF0) :
    lead byte = .inr ⟨2, if byte = 0xE0 then 0xA0 else 0x80, if byte = 0xED then 0x9F else 0xBF,
      byte - 0xE0⟩ := by
  rw [lead, if_neg (by omega), if_neg (by omega), if_neg (by omega)]
  by_cases hfirst : byte = 0xE0
  · simp [hfirst]
  by_cases hsurrogate : byte = 0xED
  · simp [hsurrogate]
  · simp [hfirst, hsurrogate, hhigh]

theorem lead_four (hlow : 0xF0 ≤ byte) (hhigh : byte ≤ 0xF4) :
    lead byte = .inr ⟨3, if byte = 0xF0 then 0x90 else 0x80, if byte = 0xF4 then 0x8F else 0xBF,
      byte - 0xF0⟩ := by
  rw [lead, if_neg (by omega), if_neg (by omega), if_neg (by omega), if_neg (by omega),
    if_neg (by omega), if_neg (by omega)]
  by_cases hfirst : byte = 0xF0
  · simp [hfirst]
  by_cases hlast : byte = 0xF4
  · simp [hlast]
  · rw [if_neg hfirst, if_pos (by omega), if_neg hfirst, if_neg hlast]

/-- There are no other first bytes of sequences. -/
theorem of_lead (hlead : lead byte = .inr seq) :
    0xC2 ≤ byte ∧ byte < 0xE0 ∨ 0xE0 ≤ byte ∧ byte < 0xF0 ∨ 0xF0 ≤ byte ∧ byte ≤ 0xF4 := by
  have hlow : ¬ byte < 0xC2 := by
    intro hbyte
    by_cases hsingle : byte < 0x80
    · rw [lead, if_pos hsingle] at hlead
      cases hlead
    · rw [lead, if_neg hsingle, if_pos hbyte] at hlead
      cases hlead
  have hhigh : ¬ 0xF4 < byte := by
    intro hbyte
    rw [lead, if_neg (by omega), if_neg (by omega), if_neg (by omega), if_neg (by omega),
      if_neg (by omega), if_neg (by omega), if_neg (by omega), if_neg (by omega),
      if_neg (by omega)] at hlead
    cases hlead
  omega

/-- The byte after the first one of a sequence is in a range, which starts at 0x80 or later. -/
theorem range_of_lead (hlead : lead byte = .inr seq) :
    0x80 ≤ seq.low ∧ seq.low ≤ seq.high ∧ seq.high < 256 := by
  rcases of_lead hlead with ⟨hlow, hhigh⟩ | ⟨hlow, hhigh⟩ | ⟨hlow, hhigh⟩
  · rw [lead_two hlow hhigh] at hlead
    obtain rfl := Sum.inr.inj hlead
    exact (by decide : 0x80 ≤ 0x80 ∧ 0x80 ≤ 0xBF ∧ 0xBF < 256)
  · rw [lead_three hlow hhigh] at hlead
    obtain rfl := Sum.inr.inj hlead
    grind
  · rw [lead_four hlow hhigh] at hlead
    obtain rfl := Sum.inr.inj hlead
    grind

/-! ## §2 The spelling of a character -/

/-- How the character of a code point is written. -/
theorem encodeChar_ofNat {code : Nat} (hcode : code.isValidChar) :
    String.utf8EncodeChar (Char.ofNat code) =
      if code ≤ 127 then [UInt8.ofNat code]
      else if code ≤ 2047 then
        [UInt8.ofNat (code / 64 % 32 + 192), UInt8.ofNat (code % 64 + 128)]
      else if code ≤ 65535 then
        [UInt8.ofNat (code / 4096 % 16 + 224), UInt8.ofNat (code / 64 % 64 + 128),
          UInt8.ofNat (code % 64 + 128)]
      else
        [UInt8.ofNat (code / 262144 % 8 + 240), UInt8.ofNat (code / 4096 % 64 + 128),
          UInt8.ofNat (code / 64 % 64 + 128), UInt8.ofNat (code % 64 + 128)] := by
  have hval : (Char.ofNat code).val.toNat = code := by
    rw [Char.ofNat, dif_pos hcode]
    rfl
  rw [String.utf8EncodeChar, hval]

/-- Writing spells a character. -/
theorem spells_encodeChar (c : Char) : Spells (String.utf8EncodeChar c) c.toNat := by
  have hbyte (n : Nat) : (UInt8.ofNat n).toNat = n % 256 := UInt8.toNat_ofNat'
  have hcode : c.toNat.isValidChar := c.valid
  have hvalid : c.toNat < 0xD800 ∨ 0xDFFF < c.toNat ∧ c.toNat < 0x110000 := hcode
  have hwritten := encodeChar_ofNat hcode
  rw [Char.ofNat_toNat] at hwritten
  rw [hwritten]
  generalize c.toNat = v at hvalid ⊢
  split
  · exact .single (by rw [hbyte]; omega) (by rw [hbyte]; omega)
  split
  · refine .sequence (lead_two ?_ ?_) (.last ?_ ?_ ?_ ?_) <;> simp only [hbyte] <;> omega
  split
  · refine .sequence (lead_three ?_ ?_) (.more ?_ ?low ?high (.last ?_ ?_ ?_ ?_))
    case low | high => simp only [hbyte]; split <;> omega
    all_goals simp only [hbyte]; omega
  · refine .sequence (lead_four ?_ ?_)
      (.more ?_ ?low ?high (.more ?_ ?_ ?_ (.last ?_ ?_ ?_ ?_)))
    case low | high => simp only [hbyte]; split <;> omega
    all_goals simp only [hbyte]; omega

/-- A sequence of which one byte is due is completed by that byte. -/
theorem Completes.of_one {low high bits code : Nat} {rest : Bytes}
    (h : Completes ⟨1, low, high, bits⟩ rest code) :
    ∃ byte, rest = [byte] ∧ low ≤ byte.toNat ∧ byte.toNat ≤ high ∧
      code = bits * 64 + (byte.toNat - 0x80) := by
  cases h with
  | more hdue _ _ _ => exact absurd hdue (Nat.lt_irrefl 1)
  | last _ hlow hhigh hcode => exact ⟨_, rfl, hlow, hhigh, hcode⟩

/-- A sequence of which more are due is completed by one byte and what completes it then. -/
theorem Completes.of_more {due low high bits code : Nat} {rest : Bytes}
    (h : Completes ⟨due + 2, low, high, bits⟩ rest code) :
    ∃ byte rest', rest = byte :: rest' ∧ low ≤ byte.toNat ∧ byte.toNat ≤ high ∧
      Completes ⟨due + 1, 0x80, 0xBF, bits * 64 + (byte.toNat - 0x80)⟩ rest' code := by
  cases h with
  | last hdue _ _ _ => exact absurd hdue (by simp)
  | more _ hlow hhigh hrest => exact ⟨_, _, rfl, hlow, hhigh, hrest⟩

/-- A character is spelled in no other way. -/
theorem Spells.eq_encodeChar {bytes : Bytes} {code : Nat} (h : Spells bytes code) :
    bytes = String.utf8EncodeChar (Char.ofNat code) := by
  have hbyte {byte : UInt8} {n : Nat} (hn : byte.toNat = n) : byte = UInt8.ofNat n := by
    rw [← hn, UInt8.ofNat_toNat]
  cases h with
  | single hsingle hcode =>
    rw [encodeChar_ofNat (Or.inl (by omega)), if_pos (by omega), ← hbyte hcode.symm]
  | sequence hlead hrest =>
    rcases of_lead hlead with ⟨hlow, hhigh⟩ | ⟨hlow, hhigh⟩ | ⟨hlow, hhigh⟩
    · rw [lead_two hlow hhigh] at hlead
      obtain rfl := Sum.inr.inj hlead
      obtain ⟨second, rfl, hlow₂, hhigh₂, hcode⟩ := hrest.of_one
      rw [encodeChar_ofNat (Or.inl (by omega)), if_neg (by omega), if_pos (by omega)]
      simp only [List.cons.injEq, and_true]
      exact ⟨hbyte (by omega), hbyte (by omega)⟩
    · rw [lead_three hlow hhigh] at hlead
      obtain rfl := Sum.inr.inj hlead
      obtain ⟨second, rest, rfl, hlow₂, hhigh₂, hrest⟩ := hrest.of_more
      obtain ⟨third, rfl, hlow₃, hhigh₃, hcode⟩ := hrest.of_one
      have hsecond : (0x80 ≤ second.toNat ∧ second.toNat ≤ 0xBF) ∧
          (2047 < code) ∧ (code < 0xD800 ∨ 0xDFFF < code) := by
        split at hlow₂ <;> split at hhigh₂ <;> omega
      rw [encodeChar_ofNat (hsecond.2.2.imp id fun h => ⟨h, by omega⟩), if_neg (by omega),
        if_neg (by omega), if_pos (by omega)]
      simp only [List.cons.injEq, and_true]
      exact ⟨hbyte (by omega), hbyte (by omega), hbyte (by omega)⟩
    · rw [lead_four hlow hhigh] at hlead
      obtain rfl := Sum.inr.inj hlead
      obtain ⟨second, rest, rfl, hlow₂, hhigh₂, hrest⟩ := hrest.of_more
      obtain ⟨third, rest, rfl, hlow₃, hhigh₃, hrest⟩ := hrest.of_more
      obtain ⟨fourth, rfl, hlow₄, hhigh₄, hcode⟩ := hrest.of_one
      have hsecond : (0x80 ≤ second.toNat ∧ second.toNat ≤ 0xBF) ∧
          (65535 < code) ∧ code < 0x110000 := by
        split at hlow₂ <;> split at hhigh₂ <;> omega
      rw [encodeChar_ofNat (Or.inr ⟨by omega, hsecond.2.2⟩), if_neg (by omega),
        if_neg (by omega), if_neg (by omega)]
      simp only [List.cons.injEq, and_true]
      exact ⟨hbyte (by omega), hbyte (by omega), hbyte (by omega), hbyte (by omega)⟩

/-! ## §3 Bytes below 0x80 -/

section

variable {byte : UInt8} {bytes rest : Bytes} {seq : Open} {code : Nat}

/-- The bytes that complete a sequence are 0x80 and above. -/
theorem Completes.high (h : Completes seq rest code) (hseq : 0x80 ≤ seq.low) (hmem : byte ∈ rest) :
    0x80 ≤ byte.toNat := by
  induction h with
  | last _ hlow _ _ =>
    obtain rfl := List.mem_singleton.mp hmem
    exact Nat.le_trans hseq hlow
  | more _ hlow _ _ ih =>
    rcases List.mem_cons.mp hmem with rfl | hlater
    · exact Nat.le_trans hseq hlow
    · exact ih (Nat.le_refl _) hlater

/-- A byte below 0x80 spells a character by itself. -/
theorem Spells.eq_singleton (h : Spells bytes code) (hmem : byte ∈ bytes)
    (hbyte : byte.toNat < 0x80) : bytes = [byte] ∧ code = byte.toNat := by
  cases h with
  | single _ hcode =>
    obtain rfl := List.mem_singleton.mp hmem
    exact ⟨rfl, hcode⟩
  | sequence hlead hrest =>
    rcases List.mem_cons.mp hmem with rfl | hlater
    · have hfirst := of_lead hlead
      omega
    · exact absurd hbyte (Nat.not_lt.mpr (hrest.high (range_of_lead hlead).1 hlater))

/-- A character below 0x80 is one byte, which no other character has. -/
theorem mem_encodeChar {c : Char} (hbyte : byte.toNat < 0x80) :
    byte ∈ String.utf8EncodeChar c ↔ c = Char.ofNat byte.toNat := by
  constructor
  · intro hmem
    rw [← ((spells_encodeChar c).eq_singleton hmem hbyte).2, Char.ofNat_toNat]
  · rintro rfl
    rw [← (Spells.single hbyte rfl).eq_encodeChar]
    exact List.mem_singleton_self byte

end

theorem length_encode (s : String) : (encode s).length = s.utf8ByteSize := by
  rw [← String.size_toByteArray, ← String.utf8Encode_toList, List.utf8Encode,
    List.size_toByteArray, encode]

/-! ## §4 Reading spellings -/

variable {pieces : List Piece} {seq : Open} {code : Nat} {bytes rest : Bytes}

/-- The machine comes through a sequence with its character. -/
theorem Completes.foldl_feed (h : Completes seq rest code) (pieces : List Piece) :
    rest.foldl feed ⟨pieces, some seq⟩ = ⟨.char (Char.ofNat code) :: pieces, none⟩ := by
  induction h with
  | last hdue hlow hhigh hcode => simp [feed, hdue, hlow, hhigh, hcode]
  | more hdue hlow hhigh _ ih =>
    rw [List.foldl_cons, ← ih]
    simp [feed, hlow, hhigh, Nat.not_le.mpr hdue]

theorem Spells.foldl_feed (h : Spells bytes code) (pieces : List Piece) :
    bytes.foldl feed ⟨pieces, none⟩ = ⟨.char (Char.ofNat code) :: pieces, none⟩ := by
  cases h with
  | single hsingle hcode => simp [feed, begin, lead, hsingle, hcode]
  | sequence hlead hrest =>
    rw [List.foldl_cons, ← hrest.foldl_feed pieces]
    simp [feed, begin, hlead]

/-- The machine comes through a text that is written with its characters. -/
theorem foldl_feed_encode (cs : List Char) (pieces : List Piece) :
    (cs.flatMap String.utf8EncodeChar).foldl feed ⟨pieces, none⟩ =
      ⟨(cs.map .char).reverse ++ pieces, none⟩ := by
  induction cs generalizing pieces with
  | nil => rfl
  | cons c cs ih =>
    rw [List.flatMap_cons, List.foldl_append, (spells_encodeChar c).foldl_feed, ih,
      Char.ofNat_toNat]
    simp

/-- What is written is read again. -/
theorem decode?_encode (s : String) : decode? (encode s) = some s := by
  have hpieces : Utf8.pieces (encode s) = s.toList.map .char := by
    rw [Utf8.pieces, encode, foldl_feed_encode]
    simp [Reading.close]
  have hshown : (s.toList.map Piece.char).map Piece.shown = s.toList := by
    rw [List.map_map]
    exact List.map_id _
  rw [decode?, hpieces]
  simp [Piece.isChar, hshown]

/-! ## §5 Bytes that are a text -/

/-! What was read before stays. -/

theorem mem_pieces_begin {piece : Piece} (hpiece : piece ∈ pieces) (byte : Nat) :
    piece ∈ (begin pieces byte).pieces := by
  unfold begin
  split
  · exact List.mem_cons_of_mem _ hpiece
  · exact hpiece

theorem mem_pieces_feed {reading : Reading} {piece : Piece} (hpiece : piece ∈ reading.pieces)
    (byte : UInt8) : piece ∈ (feed reading byte).pieces := by
  unfold feed
  split
  · exact mem_pieces_begin hpiece _
  split
  · dsimp only
    split
    · exact List.mem_cons_of_mem _ hpiece
    · exact hpiece
  · exact mem_pieces_begin (List.mem_cons_of_mem _ hpiece) _

theorem mem_close_foldl_feed {reading : Reading} {piece : Piece} (hpiece : piece ∈ reading.pieces)
    (bytes : Bytes) : piece ∈ (bytes.foldl feed reading).close := by
  induction bytes generalizing reading with
  | nil =>
    rw [List.foldl_nil, Reading.close]
    split
    · exact List.mem_reverse.mpr hpiece
    · exact List.mem_reverse.mpr (List.mem_cons_of_mem _ hpiece)
  | cons byte bytes ih => exact ih (mem_pieces_feed hpiece byte)

/-- A sequence that does not break is completed. -/
theorem exists_completes (hbytes : .broken ∉ (bytes.foldl feed ⟨pieces, some seq⟩).close) :
    ∃ front rest code, bytes = front ++ rest ∧ Completes seq front code := by
  induction bytes generalizing seq with
  | nil => exact absurd (by simp [Reading.close]) hbytes
  | cons byte bytes ih =>
    rw [List.foldl_cons] at hbytes
    by_cases hrange : seq.low ≤ byte.toNat ∧ byte.toNat ≤ seq.high
    · by_cases hdue : seq.due ≤ 1
      · exact ⟨[byte], bytes, _, rfl, .last hdue hrange.1 hrange.2 rfl⟩
      · have hfeed : feed ⟨pieces, some seq⟩ byte = ⟨pieces,
            some ⟨seq.due - 1, 0x80, 0xBF, seq.bits * 64 + (byte.toNat - 0x80)⟩⟩ := by
          simp [feed, hrange, hdue]
        rw [hfeed] at hbytes
        obtain ⟨front, rest, code, rfl, hcompletes⟩ := ih hbytes
        exact ⟨byte :: front, rest, code, rfl,
          .more (Nat.lt_of_not_le hdue) hrange.1 hrange.2 hcompletes⟩
    · have hfeed : feed ⟨pieces, some seq⟩ byte = begin (.broken :: pieces) byte.toNat := by
        simp only [feed]
        rw [if_neg (by simpa using hrange)]
      rw [hfeed] at hbytes
      exact absurd (mem_close_foldl_feed (mem_pieces_begin List.mem_cons_self _) bytes) hbytes

/-- Bytes that do not break start with a spelling. -/
theorem exists_spells {byte : UInt8}
    (hbytes : .broken ∉ ((byte :: bytes).foldl feed ⟨pieces, none⟩).close) :
    ∃ front rest code, bytes = front ++ rest ∧ Spells (byte :: front) code := by
  by_cases hsingle : byte.toNat < 0x80
  · exact ⟨[], bytes, _, rfl, .single hsingle rfl⟩
  rw [List.foldl_cons, feed, begin] at hbytes
  cases hlead : lead byte.toNat with
  | inr seq =>
    rw [hlead] at hbytes
    obtain ⟨front, rest, code, hfront, hcompletes⟩ := exists_completes hbytes
    exact ⟨front, rest, code, hfront, .sequence hlead hcompletes⟩
  | inl piece =>
    have hbroken : piece = .broken := by
      unfold lead at hlead
      rw [if_neg hsingle] at hlead
      repeat' split at hlead
      all_goals cases hlead
      all_goals rfl
    subst hbroken
    rw [hlead] at hbytes
    exact absurd (mem_close_foldl_feed List.mem_cons_self bytes) hbytes

/-- Bytes none of which breaks are characters that are written. -/
theorem exists_encode (hbytes : .broken ∉ (bytes.foldl feed ⟨pieces, none⟩).close) :
    ∃ cs : List Char, bytes = cs.flatMap String.utf8EncodeChar := by
  -- what is left behind the first spelling is shorter, by as many bytes as that has
  induction hlength : bytes.length using Nat.strongRecOn generalizing bytes pieces with
  | ind length ih =>
    cases bytes with
    | nil => exact ⟨[], rfl⟩
    | cons byte bytes =>
      obtain ⟨front, rest, code, rfl, hspells⟩ := exists_spells hbytes
      rw [← List.cons_append, List.foldl_append, hspells.foldl_feed] at hbytes
      have hshorter : rest.length < length := by
        rw [← hlength, List.length_cons, List.length_append]
        omega
      obtain ⟨cs, hcs⟩ := ih rest.length hshorter hbytes rfl
      refine ⟨Char.ofNat code :: cs, ?_⟩
      rw [List.flatMap_cons, ← hspells.eq_encodeChar, ← hcs, List.cons_append]

/-- Bytes are read as a text exactly if they are that text, written. -/
theorem decode?_eq_some {s : String} : decode? bytes = some s ↔ bytes = encode s := by
  constructor
  · intro hdecode
    have hchars : ∀ piece ∈ Utf8.pieces bytes, piece.isChar = true := by
      rw [decode?] at hdecode
      split at hdecode
      · rename_i hall
        exact List.all_eq_true.mp hall
      · cases hdecode
    have hunbroken : .broken ∉ Utf8.pieces bytes := fun hmem => by
      simpa [Piece.isChar] using hchars _ hmem
    obtain ⟨cs, hcs⟩ := exists_encode hunbroken
    have hbytes : bytes = encode (String.ofList cs) := by
      rw [encode, String.toList_ofList]
      exact hcs
    rw [hbytes, decode?_encode] at hdecode
    rw [hbytes, Option.some.inj hdecode]
  · rintro rfl
    exact decode?_encode s

/-- A longer spelling of a character is none, and neither is that of a surrogate. -/
example : decode? [0xC0, 0x80] = none ∧ decode? [0xED, 0xA0, 0x80] = none := by decide

end Exemplar.Utf8
