/-
Exemplar.Proofs.Blanks — blanks around texts and between words.

Trimming takes blanks off the two ends of a text and nothing else. So two texts are trimmed to the
same exactly if they are one text with blanks around it; a text that is trimmed to nothing is one of
blanks only, and these are the texts without a word. Blanks at the ends part no words either.

  §1 blanks around characters
  §2 texts without blanks at their ends
  §3 blanks around texts
  §4 words
-/
import Exemplar.Text.Blank
import Mathlib.Data.List.TakeWhile

namespace Exemplar.Text

/-! ## §1 Blanks around characters -/

variable {before after cs : List Char}

/-- Blanks at the end are dropped there. -/
theorem dropBlankEnd_append (hafter : ∀ c ∈ after, isBlank c = true) (cs : List Char) :
    dropBlankEnd (cs ++ after) = dropBlankEnd cs := by
  rw [dropBlankEnd, List.reverse_append, List.dropWhile_append_of_pos, dropBlankEnd]
  intro c hc
  exact hafter c (List.mem_reverse.mp hc)

/-- Some characters are trimmed to the same whatever blanks stand around them. -/
theorem trimChars_surround (hbefore : ∀ c ∈ before, isBlank c = true)
    (hafter : ∀ c ∈ after, isBlank c = true) (cs : List Char) :
    trimChars (before ++ cs ++ after) = trimChars cs := by
  rw [trimChars, List.append_assoc, List.dropWhile_append_of_pos hbefore, trimChars]
  rw [List.dropWhile_append]
  split
  · -- all of them are blank, and so nothing is left in front of the end
    rename_i hempty
    rw [List.isEmpty_iff.mp hempty, List.dropWhile_eq_nil_iff.mpr hafter]
  · exact dropBlankEnd_append hafter _

/-- What is trimmed off some characters are blanks at their ends. -/
theorem exists_surround_trimChars (cs : List Char) : ∃ before after,
    (∀ c ∈ before, isBlank c = true) ∧ (∀ c ∈ after, isBlank c = true) ∧
      cs = before ++ trimChars cs ++ after := by
  have htake (ds : List Char) : ∀ c ∈ ds.takeWhile isBlank, isBlank c = true :=
    fun c hc => List.mem_takeWhile_imp hc
  refine ⟨cs.takeWhile isBlank, ((cs.dropWhile isBlank).reverse.takeWhile isBlank).reverse,
    htake cs, fun c hc => htake _ c (List.mem_reverse.mp hc), ?_⟩
  rw [trimChars, dropBlankEnd, List.append_assoc, ← List.reverse_append,
    List.takeWhile_append_dropWhile, List.reverse_reverse, List.takeWhile_append_dropWhile]

/-! ## §2 Texts without blanks at their ends -/

/-- Whether neither the first nor the last of some characters is blank. -/
def Trimmed (cs : List Char) : Prop :=
  (∀ c ∈ cs.head?, isBlank c = false) ∧ ∀ c ∈ cs.getLast?, isBlank c = false

/-- What is left when the blanks in front are dropped does not start with one. -/
theorem head?_dropWhile_blank (cs : List Char) :
    ∀ c ∈ (cs.dropWhile isBlank).head?, isBlank c = false := by
  intro c hc
  have hfirst := List.head?_dropWhile_not isBlank cs
  rw [Option.mem_def] at hc
  simpa [hc] using hfirst

/-- Characters of which the first is not blank stay as they are when blanks in front are dropped. -/
theorem dropWhile_blank_of_head? {cs : List Char} (h : ∀ c ∈ cs.head?, isBlank c = false) :
    cs.dropWhile isBlank = cs := by
  cases cs with
  | nil => rfl
  | cons c cs =>
    have hc : isBlank c = false := h c rfl
    rw [List.dropWhile_cons_of_neg (by simp [hc])]

/-- What is left when the blanks at the end are dropped starts as before, if anything is left. -/
theorem head?_dropBlankEnd (cs : List Char) :
    ∀ c ∈ (dropBlankEnd cs).head?, c ∈ cs.head? := by
  intro c hc
  have hprefix : dropBlankEnd cs <+: cs := by
    have hsuffix := (List.dropWhile_suffix (l := cs.reverse) isBlank).reverse
    rwa [List.reverse_reverse] at hsuffix
  obtain ⟨rest, hrest⟩ := hprefix
  rw [← hrest]
  cases hend : dropBlankEnd cs with
  | nil => simp [hend] at hc
  | cons d ds => simpa [hend] using hc

theorem trimmed_trimChars (cs : List Char) : Trimmed (trimChars cs) := by
  refine ⟨fun c hc => ?_, fun c hc => ?_⟩
  · exact head?_dropWhile_blank cs c (head?_dropBlankEnd _ c hc)
  · rw [trimChars, dropBlankEnd, List.getLast?_reverse] at hc
    exact head?_dropWhile_blank _ c hc

theorem trimChars_of_trimmed {cs : List Char} (h : Trimmed cs) : trimChars cs = cs := by
  rw [trimChars, dropWhile_blank_of_head? h.1, dropBlankEnd, dropWhile_blank_of_head?,
    List.reverse_reverse]
  rw [List.head?_reverse]
  exact h.2

/-! ## §3 Blanks around texts -/

variable {s t : String}

/-- Whether a text is another one with blanks around it. -/
def Surrounds (core s : String) : Prop :=
  ∃ before after, allBlank before = true ∧ allBlank after = true ∧ s = before ++ core ++ after

theorem allBlank_iff : allBlank s = true ↔ ∀ c ∈ s.toList, isBlank c = true := by
  rw [allBlank, List.all_eq_true]

/-- A text is trimmed to the same whatever blanks stand around it. -/
theorem trim_surround {before after : String} (hbefore : allBlank before = true)
    (hafter : allBlank after = true) (s : String) : trim (before ++ s ++ after) = trim s := by
  rw [trim, trim, String.toList_append, String.toList_append,
    trimChars_surround (allBlank_iff.mp hbefore) (allBlank_iff.mp hafter)]

/-- A text is what it is trimmed to, with blanks around it. -/
theorem surrounds_trim (s : String) : Surrounds (trim s) s := by
  obtain ⟨before, after, hbefore, hafter, hlist⟩ := exists_surround_trimChars s.toList
  refine ⟨String.ofList before, String.ofList after, ?_, ?_, ?_⟩
  · rwa [allBlank_iff, String.toList_ofList]
  · rwa [allBlank_iff, String.toList_ofList]
  · rw [trim, ← String.ofList_append, ← String.ofList_append, ← hlist, String.ofList_toList]

/-- Whether two texts are one core with blanks around it. -/
def SameCore (s t : String) : Prop :=
  ∃ core, Surrounds core s ∧ Surrounds core t

/-- Two texts have one core exactly if they are trimmed to the same. -/
theorem sameCore_iff : SameCore s t ↔ trim s = trim t := by
  constructor
  · rintro ⟨core, ⟨u, v, hu, hv, rfl⟩, w, x, hw, hx, rfl⟩
    rw [trim_surround hu hv, trim_surround hw hx]
  · intro heq
    exact ⟨trim s, surrounds_trim s, heq ▸ surrounds_trim t⟩

/-- A trimmed text has no blanks at its ends. -/
theorem trimmed_trim (s : String) : Trimmed (trim s).toList := by
  rw [trim, String.toList_ofList]
  exact trimmed_trimChars _

/-- The texts of which nothing is left are those of blanks only. -/
theorem trim_eq_empty : trim s = "" ↔ allBlank s = true := by
  constructor
  · intro hempty
    obtain ⟨before, after, hbefore, hafter, hs⟩ := surrounds_trim s
    rw [allBlank_iff] at hbefore hafter ⊢
    rw [hs, hempty, String.append_empty, String.toList_append]
    exact List.forall_mem_append.mpr ⟨hbefore, hafter⟩
  · intro hblank
    have hnothing : trim (s ++ "" ++ "") = trim "" := trim_surround hblank rfl ""
    rwa [String.append_empty, String.append_empty] at hnothing

/-! ## §4 Words -/

/-- Blanks in front of some characters begin no word. -/
theorem wordsAfter_append (hbefore : ∀ c ∈ before, isBlank c = true) (cs : List Char) :
    wordsAfter [] (before ++ cs) = wordsAfter [] cs := by
  induction before with
  | nil => rfl
  | cons c before ih =>
    have hc : isBlank c = true := hbefore c List.mem_cons_self
    rw [List.cons_append, wordsAfter, if_pos hc]
    exact ih fun d hd => hbefore d (List.mem_cons_of_mem _ hd)

/-- Blanks behind some characters begin no word either, and end the one that ends there anyway. -/
theorem wordsAfter_append_blanks (hafter : ∀ c ∈ after, isBlank c = true) (begun cs : List Char) :
    wordsAfter begun (cs ++ after) = wordsAfter begun cs := by
  induction cs generalizing begun with
  | nil =>
    cases after with
    | nil => rfl
    | cons c after =>
      have hc : isBlank c = true := hafter c List.mem_cons_self
      have hnone : wordsAfter [] after = [] := by
        have hlater (d : Char) (hd : d ∈ after) : isBlank d = true :=
          hafter d (List.mem_cons_of_mem _ hd)
        rw [← List.append_nil after, wordsAfter_append hlater]
        rfl
      rw [List.nil_append, wordsAfter.eq_2, if_pos hc, hnone, wordsAfter.eq_1]
  | cons c cs ih =>
    rw [List.cons_append, wordsAfter, wordsAfter]
    split
    · split
      · exact ih []
      · rw [ih []]
    · exact ih (c :: begun)

/-- A text has the same words whether it is trimmed or not. -/
theorem words_trim (s : String) : words (trim s) = words s := by
  obtain ⟨before, after, hbefore, hafter, hlist⟩ := exists_surround_trimChars s.toList
  have hwords : wordsAfter [] (trimChars s.toList) = wordsAfter [] s.toList := by
    calc wordsAfter [] (trimChars s.toList)
      _ = wordsAfter [] (before ++ trimChars s.toList) := (wordsAfter_append hbefore _).symm
      _ = wordsAfter [] (before ++ trimChars s.toList ++ after) :=
        (wordsAfter_append_blanks hafter _ _).symm
      _ = wordsAfter [] s.toList := by rw [← hlist]
  rw [words, trim, String.toList_ofList, hwords, words]

/-- A word that was begun is there in the end. -/
theorem wordsAfter_ne_nil {begun : List Char} (hbegun : begun ≠ []) (cs : List Char) :
    wordsAfter begun cs ≠ [] := by
  induction cs generalizing begun with
  | nil => simpa [wordsAfter] using hbegun
  | cons c cs ih =>
    unfold wordsAfter
    split
    · simp [hbegun]
    · exact ih (List.cons_ne_nil c begun)

/-- The texts without a word are those of blanks only. -/
theorem words_eq_nil : words s = [] ↔ allBlank s = true := by
  have hchars (cs : List Char) : wordsAfter [] cs = [] ↔ ∀ c ∈ cs, isBlank c = true := by
    induction cs with
    | nil => simp [wordsAfter]
    | cons c cs ih =>
      unfold wordsAfter
      split
      · rename_i hc
        simpa [hc] using ih
      · rename_i hc
        simp [hc, wordsAfter_ne_nil]
  rw [words, List.map_eq_nil_iff, hchars, allBlank_iff]

/-- A word has characters, and none of them is blank. -/
theorem of_mem_wordsAfter {begun cs word : List Char} (hbegun : ∀ c ∈ begun, isBlank c = false)
    (hword : word ∈ wordsAfter begun cs) : word ≠ [] ∧ ∀ c ∈ word, isBlank c = false := by
  induction cs generalizing begun with
  | nil =>
    unfold wordsAfter at hword
    split at hword
    · cases hword
    · rename_i hne
      obtain rfl := List.mem_singleton.mp hword
      exact ⟨by simpa using hne, fun c hc => hbegun c (List.mem_reverse.mp hc)⟩
  | cons c cs ih =>
    unfold wordsAfter at hword
    split at hword
    · split at hword
      · exact ih (by simp) hword
      · rename_i hne
        rcases List.mem_cons.mp hword with rfl | hlater
        · exact ⟨by simpa using hne, fun c hc => hbegun c (List.mem_reverse.mp hc)⟩
        · exact ih (by simp) hlater
    · rename_i hc
      exact ih (List.forall_mem_cons.mpr ⟨by simpa using hc, hbegun⟩) hword

theorem of_mem_words {word : String} (hword : word ∈ words s) :
    word ≠ "" ∧ ∀ c ∈ word.toList, isBlank c = false := by
  obtain ⟨cs, hcs, rfl⟩ := List.mem_map.mp hword
  have hbegun : ∀ c ∈ ([] : List Char), isBlank c = false := by simp
  obtain ⟨hne, hsolid⟩ := of_mem_wordsAfter hbegun hcs
  rw [String.toList_ofList]
  exact ⟨by simpa using hne, hsolid⟩

end Exemplar.Text
