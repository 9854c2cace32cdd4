/-
Exemplar.Proofs.Lossy — how bytes are read that need not be a text.

Where no character stands, reading goes on behind the longest stretch of bytes with which one could
have started, or behind one byte if there is no such stretch. That says of every byte string how it
is cut into characters and broken pieces, and the machine cuts it so: a sequence is open in it as
long as there is a character that starts with the bytes, and a byte that breaks the sequence cannot
be the next one of any character. What is read of bytes behind a text does not depend on the text,
and so a text stays as it is, and bytes that are none are changed into one.

  §1 texts among bytes
  §2 open sequences
  §3 broken stretches
  §4 bytes cut into pieces
  §5 what lossy reading changes
-/
import Exemplar.Proofs.Utf8

namespace Exemplar.Utf8

variable {bytes front rest bad : Bytes} {byte : UInt8} {seq next : Open} {code : Nat}

/-! ## §1 Texts among bytes -/

/-- Whether bytes are the UTF-8 form of a text. -/
def IsText (bytes : Bytes) : Prop :=
  bytes.toByteArray.IsValidUTF8

/-- The texts among the byte strings are those that are written. -/
theorem isText_iff : IsText bytes ↔ ∃ s, bytes = encode s := by
  constructor
  · rintro ⟨cs, hcs⟩
    refine ⟨String.ofList cs, ?_⟩
    have hlists := congrArg (fun array => array.data.toList) hcs
    simpa [List.utf8Encode, encode] using hlists
  · rintro ⟨s, rfl⟩
    exact ⟨s.toList, rfl⟩

theorem encode_append (s t : String) : encode (s ++ t) = encode s ++ encode t := by
  rw [encode, String.toList_append, List.flatMap_append, encode, encode]

/-- Pieces that were read before a byte stay before those that it adds. -/
theorem feed_append (reading : Reading) (earlier : List Piece) (byte : UInt8) :
    feed ⟨reading.pieces ++ earlier, reading.pending⟩ byte =
      ⟨(feed reading byte).pieces ++ earlier, (feed reading byte).pending⟩ := by
  have hbegin (pieces : List Piece) : begin (pieces ++ earlier) byte.toNat =
      ⟨(begin pieces byte.toNat).pieces ++ earlier, (begin pieces byte.toNat).pending⟩ := by
    unfold begin
    cases lead byte.toNat <;> rfl
  unfold feed
  cases reading.pending with
  | none => exact hbegin _
  | some seq =>
    dsimp only
    split
    · split <;> rfl
    · exact hbegin (.broken :: reading.pieces)

/-- What is read between characters does not depend on what was read before. -/
theorem close_foldl_feed (earlier : List Piece) (bytes : Bytes) :
    (bytes.foldl feed ⟨earlier, none⟩).close = earlier.reverse ++ pieces bytes := by
  have hfold (reading : Reading) :
      bytes.foldl feed ⟨reading.pieces ++ earlier, reading.pending⟩ =
        ⟨(bytes.foldl feed reading).pieces ++ earlier, (bytes.foldl feed reading).pending⟩ := by
    induction bytes generalizing reading with
    | nil => rfl
    | cons byte bytes ih => rw [List.foldl_cons, feed_append, ih, List.foldl_cons]
  have hstart := hfold ⟨[], none⟩
  rw [List.nil_append] at hstart
  rw [hstart, pieces, Reading.close, Reading.close]
  cases (bytes.foldl feed ⟨[], none⟩).pending <;> simp

/-- A character that is spelled is the first piece. -/
theorem pieces_spelled (hspells : Spells front code) (rest : Bytes) :
    pieces (front ++ rest) = .char (Char.ofNat code) :: pieces rest := by
  rw [pieces, List.foldl_append, hspells.foldl_feed, close_foldl_feed]
  rfl

/-- The characters of a text are the first pieces, if the bytes begin with it. -/
theorem pieces_encode_append (s : String) (rest : Bytes) :
    pieces (encode s ++ rest) = s.toList.map .char ++ pieces rest := by
  rw [pieces, encode, List.foldl_append, foldl_feed_encode, close_foldl_feed]
  simp

/-! ## §2 Open sequences -/

/-- Whether a byte can be the next one of an open sequence. -/
def Open.Takes (seq : Open) (byte : UInt8) : Prop :=
  seq.low ≤ byte.toNat ∧ byte.toNat ≤ seq.high

/-- Whether bytes lead on in an open sequence, to what is open then. -/
inductive Leads : Open → Bytes → Open → Prop
  | refl {seq : Open} : Leads seq [] seq
  | more {seq next : Open} {byte : UInt8} {rest : Bytes} (hdue : 1 < seq.due)
      (htakes : seq.Takes byte)
      (hrest : Leads ⟨seq.due - 1, 0x80, 0xBF, seq.bits * 64 + (byte.toNat - 0x80)⟩ rest next) :
      Leads seq (byte :: rest) next

/-- The machine has the sequence open as far as bytes lead. -/
theorem Leads.foldl_feed (h : Leads seq front next) (pieces : List Piece) :
    front.foldl feed ⟨pieces, some seq⟩ = ⟨pieces, some next⟩ := by
  induction h with
  | refl => rfl
  | more hdue htakes _ ih =>
    rw [List.foldl_cons, ← ih]
    simp [feed, htakes.1, htakes.2, Nat.not_le.mpr hdue]

theorem Leads.unique {other : Open} (h : Leads seq front next) (h' : Leads seq front other) :
    next = other := by
  have hsame := (h.foldl_feed []).symm.trans (h'.foldl_feed [])
  simpa using hsame

/-- Bytes that complete what is open then complete the sequence together with those before them. -/
theorem Leads.completes (h : Leads seq front next) (hrest : Completes next rest code) :
    Completes seq (front ++ rest) code := by
  induction h with
  | refl => exact hrest
  | more hdue htakes _ ih => exact .more hdue htakes.1 htakes.2 (ih hrest)

/-- Bytes that complete a sequence lead on in it up to the last of them. -/
theorem Completes.cut (h : Completes seq (front ++ rest) code) (hrest : rest ≠ []) :
    ∃ next, Leads seq front next ∧ Completes next rest code := by
  induction front generalizing seq with
  | nil => exact ⟨seq, .refl, h⟩
  | cons byte front ih =>
    have hmore : front ++ rest ≠ [] := by simp [hrest]
    generalize hall : byte :: front ++ rest = all at h
    cases h with
    | last => exact absurd (List.cons.inj hall).2 hmore
    | more hdue hlow hhigh hcompletes =>
      obtain ⟨rfl, rfl⟩ := List.cons.inj hall
      obtain ⟨next, hleads, hnext⟩ := ih hcompletes
      exact ⟨next, .more hdue ⟨hlow, hhigh⟩ hleads, hnext⟩

/-- No bytes complete a sequence in which they lead on. -/
theorem Leads.not_completes {more : Bytes} (h : Leads seq (front ++ more) next) :
    ¬ Completes seq front code := by
  intro hcompletes
  induction hcompletes with
  | last hdue => cases h with | more hmore => exact absurd hmore (Nat.not_lt.mpr hdue)
  | more _ _ _ _ ih => cases h with | more _ _ hleads => exact ih hleads

/-- A sequence that takes some byte can be completed. -/
theorem exists_completes_of_range (due bits : Nat) {low high : Nat} (hrange : low ≤ high)
    (hhigh : high < 256) : ∃ rest code, Completes ⟨due, low, high, bits⟩ rest code := by
  induction due using Nat.strongRecOn generalizing low high bits with
  | ind due ih =>
    have hbyte : (UInt8.ofNat low).toNat = low := by
      rw [UInt8.toNat_ofNat']
      omega
    have htakes : low ≤ (UInt8.ofNat low).toNat ∧ (UInt8.ofNat low).toNat ≤ high := by omega
    by_cases hdue : due ≤ 1
    · exact ⟨_, _, .last hdue htakes.1 htakes.2 rfl⟩
    · obtain ⟨rest, code, hrest⟩ := ih (due - 1) (by omega)
        (bits * 64 + ((UInt8.ofNat low).toNat - 0x80)) (by decide : 0x80 ≤ 0xBF) (by decide)
      exact ⟨_, _, .more (Nat.lt_of_not_le hdue) htakes.1 htakes.2 hrest⟩

/-- The sequences that a byte opens can be completed, and so can what is open later in them. -/
theorem Leads.exists_completes (hlead : lead byte.toNat = .inr seq) (h : Leads seq front next) :
    ∃ rest code, Completes next rest code := by
  have hseq : seq.low ≤ seq.high ∧ seq.high < 256 := (range_of_lead hlead).2
  have hnext : next.low ≤ next.high ∧ next.high < 256 := by
    clear hlead
    induction h with
    | refl => exact hseq
    | more _ _ _ ih => exact ih (by decide : 0x80 ≤ 0xBF ∧ 0xBF < 256)
  exact exists_completes_of_range next.due next.bits hnext.1 hnext.2

/-- Bytes complete an open sequence at some point, or lead on in it up to a byte that it does not
take, or up to their end. -/
theorem completes_or_leads (seq : Open) (bytes : Bytes) :
    (∃ front rest code, bytes = front ++ rest ∧ Completes seq front code) ∨
    ∃ front rest next, bytes = front ++ rest ∧ Leads seq front next ∧
      ∀ byte ∈ rest.head?, ¬ next.Takes byte := by
  induction bytes generalizing seq with
  | nil => exact Or.inr ⟨[], [], seq, rfl, .refl, by simp⟩
  | cons byte bytes ih =>
    by_cases htakes : seq.Takes byte
    · by_cases hdue : seq.due ≤ 1
      · exact Or.inl ⟨[byte], bytes, _, rfl, .last hdue htakes.1 htakes.2 rfl⟩
      have hmore : 1 < seq.due := Nat.lt_of_not_le hdue
      rcases ih ⟨seq.due - 1, 0x80, 0xBF, seq.bits * 64 + (byte.toNat - 0x80)⟩ with
        ⟨front, rest, code, rfl, hcompletes⟩ | ⟨front, rest, next, rfl, hleads, hstop⟩
      · exact Or.inl ⟨byte :: front, rest, code, rfl, .more hmore htakes.1 htakes.2 hcompletes⟩
      · exact Or.inr ⟨byte :: front, rest, next, rfl, .more hmore htakes hleads, hstop⟩
    · exact Or.inr ⟨[], byte :: bytes, seq, rfl, .refl, by simpa using htakes⟩

/-! ## §3 Broken stretches -/

/-- Whether some character starts with some bytes. -/
def Starts (bytes : Bytes) : Prop :=
  ∃ c, bytes <+: String.utf8EncodeChar c

/-- Whether the first of some bytes are a broken piece: no character stands there, and of the
stretches that are there they are the longest with which one starts, or a single byte. -/
structure Broken (bad rest : Bytes) : Prop where
  nonempty : bad ≠ []
  noChar : ∀ c, ¬ String.utf8EncodeChar c <+: bad ++ rest
  short : bad.length = 1 ∨ Starts bad
  longest : ∀ front, bad <+: front → front <+: bad ++ rest → Starts front → front = bad

/-- There is one broken piece at most that bytes begin with. -/
theorem Broken.unique {bad' rest' : Bytes} (h : Broken bad rest) (h' : Broken bad' rest')
    (heq : bad ++ rest = bad' ++ rest') : bad = bad' ∧ rest = rest' := by
  have hlonger {a b r t : Bytes} (ha : Broken a r) (hb : Broken b t) (hab : a <+: b)
      (hbytes : b <+: a ++ r) : b = a := by
    rcases hb.short with hone | hstarts
    · have hlength : 0 < a.length := List.length_pos_iff.mpr ha.nonempty
      exact (hab.eq_of_length_le (by omega)).symm
    · exact ha.longest b hab hbytes hstarts
  have hbad : bad = bad' := by
    rcases List.prefix_or_prefix_of_prefix (List.prefix_append bad rest)
        (heq ▸ List.prefix_append bad' rest') with hfirst | hsecond
    · exact (hlonger h h' hfirst (heq ▸ List.prefix_append bad' rest')).symm
    · exact hlonger h' h hsecond (heq ▸ List.prefix_append bad rest)
  subst hbad
  exact ⟨rfl, List.append_cancel_left heq⟩

/-- A spelling that begins with the first byte of several goes on with what completes these. -/
theorem Spells.completes (hlead : lead byte.toNat = .inr seq) (h : Spells (byte :: rest) code) :
    Completes seq rest code := by
  cases h with
  | single hsingle => simp [lead, hsingle] at hlead
  | sequence hlead' hrest =>
    obtain rfl := Sum.inr.inj (hlead.symm.trans hlead')
    exact hrest

/-- No spelling begins with a byte that is never a first one. -/
theorem Spells.lead_ne_broken (h : Spells (byte :: rest) code) :
    lead byte.toNat ≠ .inl .broken := by
  intro hlead
  cases h with
  | single hsingle => simp [lead, hsingle] at hlead
  | sequence hlead' => cases hlead.symm.trans hlead'

/-- A byte that is a character on its own is one of the first 128. -/
theorem lt_of_lead_char {byte : Nat} {c : Char} (hlead : lead byte = .inl (.char c)) :
    byte < 0x80 := by
  unfold lead at hlead
  split at hlead
  · assumption
  · repeat' split at hlead
    all_goals cases hlead

/-- The first byte of those that complete a sequence is one that it takes. -/
theorem Completes.takes (h : Completes seq (byte :: rest) code) : seq.Takes byte := by
  cases h with
  | last _ hlow hhigh => exact ⟨hlow, hhigh⟩
  | more _ hlow hhigh => exact ⟨hlow, hhigh⟩

/-- A character that stands at the beginning of some bytes is spelled from the first of them on. -/
theorem spells_of_prefix {c : Char} (hc : String.utf8EncodeChar c <+: byte :: front) :
    ∃ more, Spells (byte :: more) c.toNat ∧ more <+: front := by
  have hspells := spells_encodeChar c
  obtain ⟨first, more, hchar⟩ :=
    List.exists_cons_of_ne_nil (String.utf8EncodeChar_ne_nil (c := c))
  rw [hchar] at hc hspells
  obtain ⟨rfl, hmore⟩ := List.cons_prefix_cons.mp hc
  exact ⟨more, hspells, hmore⟩

/-- A byte that is never the first one of a character is a broken piece. -/
theorem broken_of_lead (hlead : lead byte.toNat = .inl .broken) (rest : Bytes) :
    Broken [byte] rest := by
  have hstarts (more : Bytes) : ¬ Starts (byte :: more) := by
    rintro ⟨c, after, hafter⟩
    have hspells := spells_encodeChar c
    rw [← hafter] at hspells
    exact hspells.lead_ne_broken hlead
  refine ⟨List.cons_ne_nil _ _, fun c hc => ?_, Or.inl rfl, fun front hfront _ hstart => ?_⟩
  · obtain ⟨more, hspells, -⟩ := spells_of_prefix hc
    exact hspells.lead_ne_broken hlead
  · obtain ⟨more, rfl⟩ := hfront
    exact absurd hstart (hstarts more)

/-- Bytes that lead on in a sequence up to one that it does not take are a broken piece. -/
theorem broken_of_leads (hlead : lead byte.toNat = .inr seq) (hleads : Leads seq front next)
    (hstop : ∀ byte ∈ rest.head?, ¬ next.Takes byte) : Broken (byte :: front) rest := by
  -- a character that starts with one more byte would have that one taken
  have hlongest (longer : Bytes) (hfront : byte :: front <+: longer)
      (hlonger : longer <+: byte :: front ++ rest) (hstarts : Starts longer) :
      longer = byte :: front := by
    obtain ⟨more, rfl⟩ := hfront
    cases more with
    | nil => exact List.append_nil _
    | cons stop more =>
      have hstopped : stop ∈ rest.head? := by
        obtain ⟨after, hafter⟩ := (List.prefix_append_right_inj _).mp hlonger
        rw [← hafter]
        rfl
      obtain ⟨c, after, hafter⟩ := hstarts
      have hspells := spells_encodeChar c
      rw [← hafter, List.append_assoc, List.cons_append, List.cons_append] at hspells
      obtain ⟨_, hopen, hcompletes⟩ := (hspells.completes hlead).cut (by simp)
      obtain rfl := hopen.unique hleads
      exact absurd hcompletes.takes (hstop stop hstopped)
  refine ⟨List.cons_ne_nil _ _, fun c hc => ?_, Or.inr ?_, hlongest⟩
  · -- a whole character would have to end in the stretch, in which the sequence is still open
    have hwithin : String.utf8EncodeChar c <+: byte :: front := by
      rcases List.prefix_or_prefix_of_prefix hc (List.prefix_append (byte :: front) rest) with
        hshort | hlong
      · exact hshort
      · exact ⟨[], by rw [List.append_nil, hlongest _ hlong hc ⟨c, List.prefix_rfl⟩]⟩
    obtain ⟨more, hspells, after, rfl⟩ := spells_of_prefix hwithin
    exact hleads.not_completes (hspells.completes hlead)
  · obtain ⟨more, code, hmore⟩ := hleads.exists_completes hlead
    have hspells : Spells (byte :: (front ++ more)) code := .sequence hlead (hleads.completes hmore)
    exact ⟨Char.ofNat code, more, hspells.eq_encodeChar⟩

/-! ## §4 Bytes cut into pieces -/

/-- How bytes are cut into pieces from their start: a character that stands there is one, and where
none stands a broken stretch is. -/
inductive Cut : Bytes → List Piece → Prop
  | nil : Cut [] []
  | char {c : Char} {rest : Bytes} {pieces : List Piece} (hrest : Cut rest pieces) :
      Cut (String.utf8EncodeChar c ++ rest) (.char c :: pieces)
  | broken {bad rest : Bytes} {pieces : List Piece} (hbad : Broken bad rest)
      (hrest : Cut rest pieces) : Cut (bad ++ rest) (.broken :: pieces)

/-- A stretch in which a sequence is open and broken off is read as one broken piece. -/
theorem pieces_broken (hlead : lead byte.toNat = .inr seq) (hleads : Leads seq front next)
    (hstop : ∀ byte ∈ rest.head?, ¬ next.Takes byte) :
    pieces (byte :: front ++ rest) = .broken :: pieces rest := by
  have hopen : (byte :: front).foldl feed ⟨[], none⟩ = ⟨[], some next⟩ := by
    rw [List.foldl_cons, ← hleads.foldl_feed]
    simp [feed, begin, hlead]
  rw [pieces, List.foldl_append, hopen]
  cases rest with
  | nil => rfl
  | cons stop rest =>
    have hfeed : feed ⟨[], some next⟩ stop = feed ⟨[.broken], none⟩ stop := by
      have hout : ¬ next.Takes stop := hstop stop rfl
      simp only [feed]
      rw [if_neg (by simpa [Open.Takes] using hout)]
    rw [List.foldl_cons, hfeed, ← List.foldl_cons, close_foldl_feed]
    rfl

/-- The first piece of bytes is a character that stands there, or a broken stretch. -/
theorem first_piece (byte : UInt8) (bytes : Bytes) :
    (∃ c rest, byte :: bytes = String.utf8EncodeChar c ++ rest ∧
      pieces (byte :: bytes) = .char c :: pieces rest) ∨
    ∃ bad rest, byte :: bytes = bad ++ rest ∧ Broken bad rest ∧
      pieces (byte :: bytes) = .broken :: pieces rest := by
  have hchar (front : Bytes) {rest : Bytes} {code : Nat} (hbytes : byte :: bytes = front ++ rest)
      (hspells : Spells front code) :
      ∃ c rest, byte :: bytes = String.utf8EncodeChar c ++ rest ∧
        pieces (byte :: bytes) = .char c :: pieces rest := by
    refine ⟨Char.ofNat code, rest, ?_, ?_⟩
    · rw [hbytes, hspells.eq_encodeChar]
    · rw [hbytes, pieces_spelled hspells]
  cases hlead : lead byte.toNat with
  | inl piece =>
    cases piece with
    | char c => exact Or.inl (hchar [byte] rfl (.single (lt_of_lead_char hlead) rfl))
    | broken =>
      refine Or.inr ⟨[byte], bytes, rfl, broken_of_lead hlead bytes, ?_⟩
      have hfeed : feed ⟨[], none⟩ byte = ⟨[.broken], none⟩ := by simp [feed, begin, hlead]
      rw [pieces, List.foldl_cons, hfeed, close_foldl_feed]
      rfl
  | inr seq =>
    rcases completes_or_leads seq bytes with
      ⟨front, rest, code, rfl, hcompletes⟩ | ⟨front, rest, next, rfl, hleads, hstop⟩
    · exact Or.inl (hchar (byte :: front) rfl (.sequence hlead hcompletes))
    · exact Or.inr ⟨byte :: front, rest, rfl, broken_of_leads hlead hleads hstop,
        pieces_broken hlead hleads hstop⟩

theorem cut_pieces (bytes : Bytes) : Cut bytes (pieces bytes) := by
  induction hlength : bytes.length using Nat.strongRecOn generalizing bytes with
  | ind length ih =>
    cases bytes with
    | nil => exact .nil
    | cons byte bytes =>
      rcases first_piece byte bytes with
        ⟨c, rest, hbytes, hpieces⟩ | ⟨bad, rest, hbytes, hbad, hpieces⟩
      · have hshorter : rest.length < length := by
          have hchar := List.length_pos_iff.mpr (String.utf8EncodeChar_ne_nil (c := c))
          rw [← hlength, hbytes, List.length_append]
          omega
        rw [hpieces, hbytes]
        exact .char (ih rest.length hshorter rest rfl)
      · have hshorter : rest.length < length := by
          have hstretch := List.length_pos_iff.mpr hbad.nonempty
          rw [← hlength, hbytes, List.length_append]
          omega
        rw [hpieces, hbytes]
        exact .broken hbad (ih rest.length hshorter rest rfl)

/-- Bytes are cut in one way, which is how they are read. -/
theorem cut_iff {cut : List Piece} : Cut bytes cut ↔ cut = pieces bytes := by
  constructor
  · intro hcut
    induction hcut with
    | nil => rfl
    | @char c rest cut hrest ih =>
      rw [pieces_spelled (spells_encodeChar c), Char.ofNat_toNat, ih]
    | @broken bad rest cut hbad hrest ih =>
      obtain ⟨byte, front, rfl⟩ := List.exists_cons_of_ne_nil hbad.nonempty
      rcases first_piece byte (front ++ rest) with
        ⟨c, after, hbytes, -⟩ | ⟨bad', after, hbytes, hbad', hpieces⟩
      · exact absurd ⟨after, hbytes.symm⟩ (hbad.noChar c)
      · obtain ⟨-, rfl⟩ := hbad.unique hbad' hbytes
        rw [List.cons_append, hpieces, ih]
  · rintro rfl
    exact cut_pieces bytes

/-- A sequence that is broken off is one piece, with the bytes that could be its own; bytes of a
surrogate or of too long a spelling are one piece each. -/
example : decodeLossy [0x61, 0xF0, 0x9F, 0x98, 0x62] = "a\uFFFDb" ∧
    decodeLossy [0xED, 0xA0, 0x80] = "\uFFFD\uFFFD\uFFFD" ∧
    decodeLossy [0xE0, 0x80, 0xC3, 0xA9] = "\uFFFD\uFFFDé" := by decide

/-! ## §5 What lossy reading changes -/

/-- A text that bytes begin with is read as it is, and the bytes behind it as if they were alone. -/
theorem decodeLossy_encode_append (s : String) (rest : Bytes) :
    decodeLossy (encode s ++ rest) = s ++ decodeLossy rest := by
  have hshown : (s.toList.map Piece.char).map Piece.shown = s.toList := by
    rw [List.map_map]
    exact List.map_id _
  rw [decodeLossy, pieces_encode_append, List.map_append, hshown, String.ofList_append,
    String.ofList_toList, decodeLossy]

theorem decodeLossy_encode (s : String) : decodeLossy (encode s) = s := by
  have hwhole := decodeLossy_encode_append s []
  rw [List.append_nil] at hwhole
  rw [hwhole]
  exact String.append_empty

theorem encode_injective : Function.Injective encode := by
  intro s t heq
  rw [← decodeLossy_encode s, heq, decodeLossy_encode]

/-- Bytes are written back as they were read exactly if they are a text. -/
theorem encode_decodeLossy_eq : encode (decodeLossy bytes) = bytes ↔ IsText bytes := by
  constructor
  · intro hsame
    exact isText_iff.mpr ⟨decodeLossy bytes, hsame.symm⟩
  · intro htext
    obtain ⟨s, rfl⟩ := isText_iff.mp htext
    rw [decodeLossy_encode]

end Exemplar.Utf8
