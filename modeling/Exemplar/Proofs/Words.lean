/-
Exemplar.Proofs.Words — a line is its words with blanks between them.

A line can be laid from words: some blanks, and then each word with the gap behind it, of which only
the last one may be empty. Every line is laid from words in this way, and from no other words than
those that are read off it. So reading the words of a line undoes laying it, whatever the gaps are,
and a command is read off a line as the words that the line is laid from.

  §1 lines that are laid from words
  §2 the words of such a line
  §3 every line is one
  §4 commands
-/
import Exemplar.Proofs.Settings

namespace Exemplar

namespace Text

/-! ## §1 Lines that are laid from words -/

/-- Whether a text is a word: not empty, and without blanks. -/
def IsWord (s : String) : Prop :=
  s ≠ "" ∧ ∀ c ∈ s.toList, isBlank c = false

/-- The line that starts with some text and goes on with words, each with the gap behind it. -/
def lay (before : String) : List (String × String) → String
  | [] => before
  | (word, gap) :: rest => before ++ word ++ lay gap rest

/-- Whether words are set apart from each other: they are words, before and behind each of them
there are blanks only, and none of the gaps between two of them is empty. -/
structure SetApart (before : String) (pairs : List (String × String)) : Prop where
  before : allBlank before = true
  word : ∀ pair ∈ pairs, IsWord pair.1
  gap : ∀ pair ∈ pairs, allBlank pair.2 = true
  parted : ∀ pair ∈ pairs.dropLast, pair.2 ≠ ""

/-- Whether a line is laid from words that are set apart. -/
def LaidFrom (words : List String) (line : String) : Prop :=
  ∃ before pairs, SetApart before pairs ∧ pairs.map Prod.fst = words ∧ line = lay before pairs

variable {before line s word gap : String} {pairs : List (String × String)}

namespace SetApart

/-- Without its first word a line begins with the gap behind that. -/
theorem tail (h : SetApart before ((word, gap) :: pairs)) : SetApart gap pairs where
  before := h.gap _ List.mem_cons_self
  word pair hpair := h.word pair (List.mem_cons_of_mem _ hpair)
  gap pair hpair := h.gap pair (List.mem_cons_of_mem _ hpair)
  parted pair hpair := by
    cases pairs with
    | nil => cases hpair
    | cons next pairs => exact h.parted pair (List.mem_cons_of_mem _ hpair)

/-- A line is set apart with one more word if that is a word and a gap comes behind it. -/
theorem cons (h : SetApart gap pairs) (hword : IsWord word) (hgap : pairs ≠ [] → gap ≠ "") :
    SetApart "" ((word, gap) :: pairs) where
  before := rfl
  word := List.forall_mem_cons.mpr ⟨hword, h.word⟩
  gap := List.forall_mem_cons.mpr ⟨h.before, h.gap⟩
  parted := by
    cases pairs with
    | nil => simp
    | cons next pairs => exact List.forall_mem_cons.mpr ⟨hgap (by simp), h.parted⟩

end SetApart

/-! ## §2 The words of such a line -/

/-- Characters that are not blank are added to the word that was begun. -/
theorem wordsAfter_solid {solid : List Char} (hsolid : ∀ c ∈ solid, isBlank c = false)
    (begun cs : List Char) :
    wordsAfter begun (solid ++ cs) = wordsAfter (solid.reverse ++ begun) cs := by
  induction solid generalizing begun with
  | nil => rfl
  | cons c solid ih =>
    obtain ⟨hc, hrest⟩ := List.forall_mem_cons.mp hsolid
    rw [List.cons_append, wordsAfter, if_neg (by simp [hc]), ih hrest]
    simp

/-- A word that was begun ends where a blank comes, or nothing. -/
theorem wordsAfter_begun {begun cs : List Char} (hbegun : begun ≠ [])
    (hcs : ∀ c ∈ cs.head?, isBlank c = true) :
    wordsAfter begun cs = begun.reverse :: wordsAfter [] cs := by
  cases cs with
  | nil => simp [wordsAfter, hbegun]
  | cons c cs =>
    have hc : isBlank c = true := hcs c rfl
    simp [wordsAfter, hc, hbegun]

/-- Blanks before a text are not part of its words. -/
theorem words_append_of_allBlank (hbefore : allBlank before = true) (s : String) :
    words (before ++ s) = words s := by
  rw [words, String.toList_append, wordsAfter_append (allBlank_iff.mp hbefore), words]

/-- A word before a text that begins with a blank is the first of its words. -/
theorem words_append_of_isWord (hword : IsWord word)
    (hs : ∀ c ∈ s.toList.head?, isBlank c = true) : words (word ++ s) = word :: words s := by
  have hbegun : word.toList.reverse ≠ [] := by simpa using hword.1
  rw [words, String.toList_append, wordsAfter_solid hword.2, List.append_nil,
    wordsAfter_begun hbegun hs, List.reverse_reverse, List.map_cons, String.ofList_toList, words]

/-- Behind a word a line goes on with a blank, or ends. -/
theorem SetApart.head_blank (h : SetApart before ((word, gap) :: pairs)) :
    ∀ c ∈ (lay gap pairs).toList.head?, isBlank c = true := by
  have hgap := allBlank_iff.mp h.tail.before
  cases pairs with
  | nil => exact fun c hc => hgap c (List.mem_of_mem_head? hc)
  | cons next pairs =>
    have hne : gap.toList ≠ [] := by simpa using h.parted _ List.mem_cons_self
    obtain ⟨d, ds, hds⟩ := List.exists_cons_of_ne_nil hne
    intro c hc
    rw [lay, String.append_assoc, String.toList_append, hds] at hc
    obtain rfl := Option.some.inj hc
    exact hgap d (hds ▸ List.mem_cons_self)

/-- The words that are read off a line are those that it is laid from. -/
theorem words_lay (h : SetApart before pairs) : words (lay before pairs) = pairs.map Prod.fst := by
  induction pairs generalizing before with
  | nil => exact words_eq_nil.mpr h.before
  | cons pair pairs ih =>
    obtain ⟨word, gap⟩ := pair
    have hword : IsWord word := h.word _ List.mem_cons_self
    rw [lay, String.append_assoc, words_append_of_allBlank h.before,
      words_append_of_isWord hword h.head_blank, ih h.tail, List.map_cons]

/-! ## §3 Every line is one -/

theorem lay_append (s before : String) (pairs : List (String × String)) :
    lay (s ++ before) pairs = s ++ lay before pairs := by
  cases pairs with
  | nil => rfl
  | cons pair pairs => simp only [lay, String.append_assoc]

/-- A line that is laid from words is so with one more character before it: a blank goes to the
blanks at its start, and any other character is a word or goes to the first one. -/
theorem SetApart.exists_before (h : SetApart before pairs) (c : Char) :
    ∃ before' pairs', SetApart before' pairs' ∧
      lay before' pairs' = String.singleton c ++ lay before pairs := by
  by_cases hc : isBlank c = true
  · refine ⟨String.singleton c ++ before, pairs, { h with before := ?_ }, lay_append _ _ _⟩
    rw [allBlank_iff, String.toList_append]
    simpa [hc] using allBlank_iff.mp h.before
  have hword : IsWord (String.singleton c) := ⟨by simp, by simpa using hc⟩
  by_cases hbefore : before = ""
  · subst hbefore
    cases pairs with
    | nil => exact ⟨"", [(String.singleton c, "")], h.cons hword (absurd rfl), by simp [lay]⟩
    | cons pair pairs =>
      obtain ⟨first, gap⟩ := pair
      have hfirst : IsWord first := h.word _ List.mem_cons_self
      have hlonger : IsWord (String.singleton c ++ first) := by
        refine ⟨by simp, ?_⟩
        rw [String.toList_append]
        exact List.forall_mem_append.mpr ⟨hword.2, hfirst.2⟩
      refine ⟨"", (String.singleton c ++ first, gap) :: pairs, h.tail.cons hlonger fun hpairs => ?_,
        by simp [lay, String.append_assoc]⟩
      obtain ⟨next, rest, rfl⟩ := List.exists_cons_of_ne_nil hpairs
      exact h.parted _ List.mem_cons_self
  · exact ⟨"", (String.singleton c, before) :: pairs, h.cons hword fun _ => hbefore,
      by simp [lay]⟩

theorem exists_lay (line : String) :
    ∃ before pairs, SetApart before pairs ∧ line = lay before pairs := by
  rw [← String.ofList_toList (s := line)]
  induction line.toList with
  | nil => exact ⟨"", [], ⟨rfl, by simp, by simp, by simp⟩, rfl⟩
  | cons c cs ih =>
    obtain ⟨before, pairs, hapart, hline⟩ := ih
    obtain ⟨before', pairs', hapart', hline'⟩ := hapart.exists_before c
    refine ⟨before', pairs', hapart', ?_⟩
    rw [hline', ← hline, String.singleton_eq_ofList, ← String.ofList_append]
    rfl

/-- A line is laid from its words and from no others. -/
theorem laidFrom_iff {texts : List String} : LaidFrom texts line ↔ words line = texts := by
  constructor
  · rintro ⟨before, pairs, hapart, rfl, rfl⟩
    exact words_lay hapart
  · rintro rfl
    obtain ⟨before, pairs, hapart, hline⟩ := exists_lay line
    exact ⟨before, pairs, hapart, by rw [hline, words_lay hapart], hline⟩

end Text

/-! ## §4 Commands -/

namespace Command

variable {line : String} {command : Command}

/-- A command is read off a line that is laid from its words. -/
theorem parse?_eq_some :
    parse? line = some command ↔ Text.LaidFrom (command.program :: command.args) line := by
  rw [Text.laidFrom_iff, parse?]
  cases Text.words line with
  | nil => simp
  | cons program args =>
    rw [Option.some.injEq, List.cons.injEq]
    constructor
    · rintro rfl
      exact ⟨rfl, rfl⟩
    · rintro ⟨rfl, rfl⟩
      rfl

/-- What is said of reading a command off a line. There is none exactly if the line is blank.
Otherwise the program and the arguments are words from which the line is laid, and the line is laid
from no others. Of a line that was laid from words, at least one, just these are read, and a call
has those behind the first one and then its own arguments. -/
structure UndoesLaying (line : String) : Prop where
  none : parse? line = none ↔ ∀ c ∈ line.toList, Text.isBlank c = true
  laid : ∀ command, parse? line = some command →
    Text.LaidFrom (command.program :: command.args) line
  only : ∀ command texts, parse? line = some command → Text.LaidFrom texts line →
    texts = command.program :: command.args
  back : ∀ before first gap rest, Text.SetApart before ((first, gap) :: rest) →
    line = Text.lay before ((first, gap) :: rest) →
      ∃ command, parse? line = some command ∧ command.program = first ∧
        command.args = rest.map Prod.fst ∧
        ∀ extra, command.argsWith extra = rest.map Prod.fst ++ extra

/-- Reading a command undoes laying a line from words. -/
theorem parse?_undoesLaying (line : String) : UndoesLaying line := by
  refine ⟨?none, fun command => parse?_eq_some.mp, fun command texts hparse hlaid => ?only,
    fun before first gap rest hapart hline => ?back⟩
  case none => rw [parse?_eq_none, Text.allBlank_iff]
  case only =>
    rw [← Text.laidFrom_iff.mp hlaid]
    exact Text.laidFrom_iff.mp (parse?_eq_some.mp hparse)
  case back =>
    exact ⟨⟨first, rest.map Prod.fst⟩, parse?_eq_some.mpr ⟨before, _, hapart, rfl, hline⟩, rfl, rfl,
      fun _ => rfl⟩

/-- Gaps may be of any blanks and of any number of them. -/
example : parse? "\u2003sh \u00A0-c\t\n" = some ⟨"sh", ["-c"]⟩ := by decide

end Command

end Exemplar
