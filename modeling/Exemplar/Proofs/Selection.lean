/-
Exemplar.Proofs.Selection — what an argument selects.

An argument is looked up in its normal form: the blanks at its ends are taken off, and what is left
is written in lower case. The normal form of a normal form is itself. That is a fact about the whole
of the mapping to lower case: no form that it gives is mapped any further, wherever in a word it
stands, and none of them is blank. So what can be selected singly are the names that are their own
normal forms, the word `all` apart.

  §1 the runs of the mapping
  §2 characters that are in lower case
  §3 texts in lower case
  §4 normal forms
  §5 selections
-/
import Exemplar.Proofs.Blanks
import Exemplar.Registry
import Mathlib.Data.List.Basic

namespace Exemplar

namespace Text

/-! ## §1 The runs of the mapping -/

namespace CaseRun

/-- Whether none of a range of code points lies between the images of a run. -/
def avoids (run : CaseRun) (range : Nat × Nat) : Bool :=
  Nat.blt (run.image + (run.last - run.first)) range.1 || Nat.blt range.2 run.image

/-- Whether a run sends none of its code points to one of another run: their ranges are apart, or
the images fall into the gaps of a run that takes every other code point. -/
def clearOf (run other : CaseRun) : Bool :=
  run.avoids (other.first, other.last) ||
    (Nat.beq other.step 2 && (Nat.beq run.step 2 || Nat.beq run.first run.last) &&
      Nat.beq ((run.image + other.first) % 2) 1)

variable {run other : CaseRun} {code : Nat}

theorem holds_iff : run.holds code = true ↔
    run.first ≤ code ∧ code ≤ run.last ∧ (code - run.first) % run.step = 0 := by
  simp [holds, and_assoc]

/-- The images of a run lie in order from its first image on. -/
theorem send_mem (h : run.holds code = true) :
    run.image ≤ run.send code ∧ run.send code ≤ run.image + (run.last - run.first) := by
  obtain ⟨hfirst, hlast, -⟩ := holds_iff.mp h
  unfold send
  omega

/-- A run sends nothing into a range that it avoids. -/
theorem send_of_avoids {range : Nat × Nat} (havoids : run.avoids range = true)
    (h : run.holds code = true) : ¬ (range.1 ≤ run.send code ∧ run.send code ≤ range.2) := by
  obtain ⟨hlow, hhigh⟩ := send_mem h
  simp only [avoids, Bool.or_eq_true, Nat.blt_eq] at havoids
  omega

theorem holds_send (hclear : run.clearOf other = true) (h : run.holds code = true) :
    other.holds (run.send code) = false := by
  rw [← Bool.not_eq_true]
  intro hother
  obtain ⟨hlow, hhigh, hstep⟩ := holds_iff.mp hother
  simp only [clearOf, Bool.or_eq_true, Bool.and_eq_true, Nat.beq_eq] at hclear
  rcases hclear with havoids | ⟨⟨htwo, hsteps⟩, hparity⟩
  · exact send_of_avoids havoids h ⟨hlow, hhigh⟩
  · -- the image is at an odd distance from the start of the other run
    obtain ⟨hfirst, hlast, hown⟩ := holds_iff.mp h
    have hdistance : (code - run.first) % 2 = 0 := by
      rcases hsteps with hsteps | hsingle
      · rwa [hsteps] at hown
      · have : code - run.first = 0 := by omega
        simp [this]
    rw [htwo] at hstep
    unfold send at hlow hstep
    omega

end CaseRun

/-- No run sends a code point to one that a run holds. -/
theorem lowerRuns_clear : ∀ run ∈ lowerRuns, ∀ other ∈ lowerRuns, run.clearOf other = true := by
  have hall : (lowerRuns.all fun run => lowerRuns.all run.clearOf) = true := by decide +kernel
  simpa using hall

/-- What no run sends anything to: the two characters that are mapped by rules of their own, and the
blanks. -/
def untouched : CodeTable := (0x130, 0x130) :: (0x3A3, 0x3A3) :: blankTable

theorem lowerRuns_avoid : ∀ run ∈ lowerRuns, ∀ range ∈ untouched, run.avoids range = true := by
  have hall : (lowerRuns.all fun run => untouched.all run.avoids) = true := by decide +kernel
  simpa using hall

/-- All that a run sends to are code points of characters. -/
theorem lowerRuns_valid : ∀ run ∈ lowerRuns, run.avoids (0xD800, 0xDFFF) = true ∧
    run.image + (run.last - run.first) < 0x110000 := by
  have hall : (lowerRuns.all fun run => run.avoids (0xD800, 0xDFFF) &&
      Nat.blt (run.image + (run.last - run.first)) 0x110000) = true := by decide +kernel
  simpa using hall

/-- A code point is sent where its run sends it, and stays if it is in none. -/
theorem lowerCode_cases (code : Nat) :
    (∃ run ∈ lowerRuns, run.holds code = true ∧ lowerCode code = run.send code) ∨
      ((∀ run ∈ lowerRuns, run.holds code = false) ∧ lowerCode code = code) := by
  unfold lowerCode
  cases hfind : lowerRuns.find? (·.holds code) with
  | some run =>
    exact Or.inl ⟨run, List.mem_of_find?_eq_some hfind, by simpa using List.find?_some hfind, rfl⟩
  | none => exact Or.inr ⟨by simpa using hfind, rfl⟩

/-- A code point in no run stays. -/
theorem lowerCode_of_not_held {code : Nat} (h : ∀ run ∈ lowerRuns, run.holds code = false) :
    lowerCode code = code := by
  rcases lowerCode_cases code with ⟨run, hrun, hheld, -⟩ | ⟨-, hsame⟩
  · simp [h run hrun] at hheld
  · exact hsame

/-- What a code point is sent to is sent no further. -/
theorem lowerCode_lowerCode (code : Nat) : lowerCode (lowerCode code) = lowerCode code := by
  rcases lowerCode_cases code with ⟨run, hrun, hheld, hsend⟩ | ⟨-, hsame⟩
  · rw [hsend]
    exact lowerCode_of_not_held fun other hother =>
      CaseRun.holds_send (lowerRuns_clear run hrun other hother) hheld
  · rw [hsame, hsame]

/-- A code point that is sent into one of the untouched ranges was there before. -/
theorem lowerCode_untouched {code : Nat} {range : Nat × Nat} (hrange : range ∈ untouched)
    (h : range.1 ≤ lowerCode code ∧ lowerCode code ≤ range.2) : lowerCode code = code := by
  rcases lowerCode_cases code with ⟨run, hrun, hheld, hsend⟩ | ⟨-, hsame⟩
  · rw [hsend] at h
    exact absurd h (CaseRun.send_of_avoids (lowerRuns_avoid run hrun range hrange) hheld)
  · exact hsame

/-- Characters are sent to characters. -/
theorem toNat_ofNat_lowerCode (c : Char) :
    (Char.ofNat (lowerCode c.toNat)).toNat = lowerCode c.toNat := by
  have hvalid : (lowerCode c.toNat).isValidChar := by
    rcases lowerCode_cases c.toNat with ⟨run, hrun, hheld, hsend⟩ | ⟨-, hsame⟩
    · obtain ⟨havoids, hbound⟩ := lowerRuns_valid run hrun
      have hgap := CaseRun.send_of_avoids havoids hheld
      have hlast := (CaseRun.send_mem hheld).2
      rw [hsend]
      unfold Nat.isValidChar
      dsimp only at hgap
      omega
    · rw [hsame]
      exact c.valid
  rw [Char.ofNat, dif_pos hvalid]
  rfl

/-! ## §2 Characters that are in lower case -/

/-- Whether a character is its own lower-case form, wherever it stands. -/
def Small (c : Char) : Prop := c ≠ 'Σ' ∧ lowerChar c = [c]

instance (c : Char) : Decidable (Small c) := inferInstanceAs (Decidable (_ ∧ _))

/-- What a character with no rule of its own is sent to is in lower case, and blank only if that
character was. -/
theorem small_ofNat_lowerCode {c : Char} (hdot : c ≠ 'İ') (hsigma : c ≠ 'Σ') :
    Small (Char.ofNat (lowerCode c.toNat)) ∧
      (isBlank c = false → isBlank (Char.ofNat (lowerCode c.toNat)) = false) := by
  have hcode := toNat_ofNat_lowerCode c
  -- what is sent to an untouched code point is that character itself
  have hsame : ∀ range ∈ untouched, range.1 ≤ lowerCode c.toNat ∧ lowerCode c.toNat ≤ range.2 →
      Char.ofNat (lowerCode c.toNat) = c := by
    intro range hrange hin
    rw [lowerCode_untouched hrange hin, Char.ofNat_toNat]
  have hne : ∀ special : Char, (special.toNat, special.toNat) ∈ untouched → c ≠ special →
      Char.ofNat (lowerCode c.toNat) ≠ special := by
    rintro special hmem hother rfl
    refine hother (hsame _ hmem ?_).symm
    rw [hcode]
    exact ⟨Nat.le_refl _, Nat.le_refl _⟩
  refine ⟨⟨hne 'Σ' (by decide) hsigma, ?_⟩, fun hblank => ?_⟩
  · rw [lowerChar, if_neg (hne 'İ' (by decide) hdot), hcode, lowerCode_lowerCode]
  · rw [← Bool.not_eq_true]
    intro hholds
    obtain ⟨range, hrange, hin⟩ := List.any_eq_true.mp hholds
    rw [hcode, Bool.and_eq_true, decide_eq_true_eq, decide_eq_true_eq] at hin
    have hmem : range ∈ untouched := List.mem_cons_of_mem _ (List.mem_cons_of_mem _ hrange)
    rw [hsame range hmem hin, hblank] at hholds
    cases hholds

/-- The lower-case form of a character between others. -/
def form (before : List Char) (c : Char) (after : List Char) : List Char :=
  if c = 'Σ' then [if endsWord before after then 'ς' else 'σ'] else lowerChar c

theorem lowerAfter_cons (before : List Char) (c : Char) (cs : List Char) :
    lowerAfter before (c :: cs) = form before c cs ++ lowerAfter (c :: before) cs := rfl

theorem form_ne_nil (before : List Char) (c : Char) (after : List Char) :
    form before c after ≠ [] := by
  unfold form lowerChar
  split
  · simp
  · split <;> simp

/-- The form of a character is in lower case, and blank only if the character is. -/
theorem small_of_mem_form {before after : List Char} {c d : Char} (hd : d ∈ form before c after) :
    Small d ∧ (isBlank c = false → isBlank d = false) := by
  unfold form lowerChar at hd
  split at hd
  · obtain rfl := List.mem_singleton.mp hd
    split <;> exact ⟨by decide +kernel, fun _ => by decide⟩
  · rename_i hsigma
    split at hd
    · simp only [List.mem_cons, List.not_mem_nil, or_false] at hd
      rcases hd with rfl | rfl <;> exact ⟨by decide +kernel, fun _ => by decide⟩
    · rename_i hdot
      obtain rfl := List.mem_singleton.mp hd
      exact small_ofNat_lowerCode hdot hsigma

/-! ## §3 Texts in lower case -/

/-- Characters in lower case stay as they are. -/
theorem lowerAfter_of_small {cs : List Char} (h : ∀ c ∈ cs, Small c) (before : List Char) :
    lowerAfter before cs = cs := by
  induction cs generalizing before with
  | nil => rfl
  | cons c cs ih =>
    obtain ⟨hsigma, hchar⟩ := h c List.mem_cons_self
    rw [lowerAfter_cons, form, if_neg hsigma, hchar, ih fun d hd => h d (List.mem_cons_of_mem _ hd)]
    rfl

/-- A lower-case form is all in lower case. -/
theorem small_of_mem_lowerAfter {before cs : List Char} {d : Char}
    (hd : d ∈ lowerAfter before cs) : Small d := by
  induction cs generalizing before with
  | nil => cases hd
  | cons c cs ih =>
    rw [lowerAfter_cons, List.mem_append] at hd
    rcases hd with hform | hlater
    · exact (small_of_mem_form hform).1
    · exact ih hlater

/-- The first character of a lower-case form is of the form of the first character. -/
theorem head?_lowerAfter {before cs : List Char} {d : Char}
    (hd : d ∈ (lowerAfter before cs).head?) : ∃ c ∈ cs.head?, ∃ after, d ∈ form before c after := by
  cases cs with
  | nil => cases hd
  | cons c cs =>
    rw [lowerAfter_cons, List.head?_append_of_ne_nil _ (form_ne_nil before c cs)] at hd
    exact ⟨c, rfl, cs, List.mem_of_mem_head? hd⟩

theorem lowerAfter_eq_nil {before cs : List Char} : lowerAfter before cs = [] ↔ cs = [] := by
  cases cs with
  | nil => simp [lowerAfter]
  | cons c cs => simp [lowerAfter_cons, form_ne_nil]

/-- The last character of a lower-case form is of the form of the last character. -/
theorem getLast?_lowerAfter {before cs : List Char} {d : Char}
    (hd : d ∈ (lowerAfter before cs).getLast?) :
    ∃ c ∈ cs.getLast?, ∃ before after, d ∈ form before c after := by
  induction cs generalizing before with
  | nil => cases hd
  | cons c cs ih =>
    rw [lowerAfter_cons] at hd
    cases cs with
    | nil =>
      rw [show lowerAfter (c :: before) [] = [] from rfl, List.append_nil] at hd
      exact ⟨c, rfl, before, [], List.mem_of_getLast? hd⟩
    | cons next rest =>
      have hne : lowerAfter (c :: before) (next :: rest) ≠ [] := by simp [lowerAfter_eq_nil]
      rw [List.getLast?_append_of_ne_nil _ hne] at hd
      obtain ⟨last, hlast, hform⟩ := ih hd
      exact ⟨last, by rwa [List.getLast?_cons_cons], hform⟩

/-- Characters without blanks at their ends have such a lower-case form. -/
theorem trimmed_lowerAfter {cs : List Char} (h : Trimmed cs) (before : List Char) :
    Trimmed (lowerAfter before cs) := by
  refine ⟨fun d hd => ?_, fun d hd => ?_⟩
  · obtain ⟨c, hc, _, hform⟩ := head?_lowerAfter hd
    exact (small_of_mem_form hform).2 (h.1 c hc)
  · obtain ⟨c, hc, _, _, hform⟩ := getLast?_lowerAfter hd
    exact (small_of_mem_form hform).2 (h.2 c hc)

/-! Of the letters of `all` nothing is the lower-case form but themselves and their capitals. -/

/-- The run of the capitals of ASCII. -/
def capitals : CaseRun := ⟨0x41, 0x5A, 1, 0x61⟩

/-- The letters of `all`, each with its capital. -/
def lettersOfAll : List (Char × Char) := [('a', 'A'), ('l', 'L')]

theorem lowerRuns_letters : ∀ letter ∈ lettersOfAll, ∀ run ∈ lowerRuns,
    run = capitals ∨ run.avoids (letter.1.toNat, letter.1.toNat) = true := by
  have hall : (lettersOfAll.all fun letter => lowerRuns.all fun run =>
      decide (run = capitals) || run.avoids (letter.1.toNat, letter.1.toNat)) = true := by
    decide +kernel
  simpa using hall

variable {before after cs rest : List Char} {c small capital : Char}

/-- Such a letter and its capital are all that is sent to it. -/
theorem eq_of_lowerCode (hletter : (small, capital) ∈ lettersOfAll)
    (hcode : lowerCode c.toNat = small.toNat) : c = small ∨ c = capital := by
  rcases lowerCode_cases c.toNat with ⟨run, hrun, hheld, hsend⟩ | ⟨-, hsame⟩
  · rw [hsend] at hcode
    rcases lowerRuns_letters _ hletter run hrun with rfl | havoids
    · -- the capitals of ASCII are 32 before their letters
      right
      obtain ⟨hfirst, -, -⟩ := CaseRun.holds_iff.mp hheld
      have hdistance : small.toNat = capital.toNat + 32 := by
        simp only [lettersOfAll, List.mem_cons, Prod.mk.injEq, List.not_mem_nil, or_false]
          at hletter
        rcases hletter with ⟨rfl, rfl⟩ | ⟨rfl, rfl⟩ <;> decide
      refine Char.toNat_inj.mp ?_
      simp only [CaseRun.send, capitals] at hcode hfirst
      omega
    · exact absurd ⟨Nat.le_of_eq hcode.symm, Nat.le_of_eq hcode⟩
        (CaseRun.send_of_avoids havoids hheld)
  · exact Or.inl (Char.toNat_inj.mp (hsame.symm.trans hcode))

/-- A form that starts with such a letter is the form of the letter or of its capital. -/
theorem form_eq_letter (hletter : (small, capital) ∈ lettersOfAll) :
    (form before c after).head? = some small ↔
      form before c after = [small] ∧ (c = small ∨ c = capital) := by
  have hspecial : small ≠ 'ς' ∧ small ≠ 'σ' ∧ small ≠ 'i' := by
    simp only [lettersOfAll, List.mem_cons, Prod.mk.injEq, List.not_mem_nil, or_false] at hletter
    rcases hletter with ⟨rfl, -⟩ | ⟨rfl, -⟩ <;> decide
  obtain ⟨hfinal, hsigma, hi⟩ := hspecial
  refine ⟨fun hhead => ?_, fun h => by rw [h.1]; rfl⟩
  unfold form lowerChar at hhead ⊢
  split at hhead
  · split at hhead
    · exact absurd (Option.some.inj hhead).symm hfinal
    · exact absurd (Option.some.inj hhead).symm hsigma
  · rename_i hc
    rw [if_neg hc]
    split at hhead
    · exact absurd (Option.some.inj hhead).symm hi
    · rename_i hdot
      have hchar : Char.ofNat (lowerCode c.toNat) = small := Option.some.inj hhead
      rw [if_neg hdot, hchar]
      refine ⟨rfl, eq_of_lowerCode hletter ?_⟩
      rw [← hchar, toNat_ofNat_lowerCode]

/-- Such a letter and its capital have the letter as their form. -/
theorem form_letter (hletter : (small, capital) ∈ lettersOfAll) (hc : c = small ∨ c = capital) :
    form before c after = [small] := by
  have hcapital : lowerCode capital.toNat = small.toNat ∧
      (small ≠ 'Σ' ∧ small ≠ 'İ') ∧ capital ≠ 'Σ' ∧ capital ≠ 'İ' := by
    simp only [lettersOfAll, List.mem_cons, Prod.mk.injEq, List.not_mem_nil, or_false] at hletter
    rcases hletter with ⟨rfl, rfl⟩ | ⟨rfl, rfl⟩ <;> decide
  obtain ⟨hsent, hspecial, hspecial'⟩ := hcapital
  have hcode : (c ≠ 'Σ' ∧ c ≠ 'İ') ∧ lowerCode c.toNat = small.toNat := by
    rcases hc with rfl | rfl
    · exact ⟨hspecial, by rw [← hsent, lowerCode_lowerCode]⟩
    · exact ⟨hspecial', hsent⟩
  obtain ⟨⟨hsigma, hdot⟩, hcode⟩ := hcode
  rw [form, if_neg hsigma, lowerChar, if_neg hdot, hcode, Char.ofNat_toNat]

/-- A lower-case form starts with such a letter if the characters start with it or its capital. -/
theorem lowerAfter_eq_cons (hletter : (small, capital) ∈ lettersOfAll) :
    lowerAfter before cs = small :: rest ↔
      ∃ c tail, cs = c :: tail ∧ (c = small ∨ c = capital) ∧
        lowerAfter (c :: before) tail = rest := by
  cases cs with
  | nil => simp [lowerAfter]
  | cons c tail =>
    rw [lowerAfter_cons]
    constructor
    · intro heq
      have hhead : (form before c tail).head? = some small := by
        rw [← List.head?_append_of_ne_nil _ (form_ne_nil before c tail), heq]
        rfl
      obtain ⟨hform, hc⟩ := (form_eq_letter hletter).mp hhead
      rw [hform] at heq
      exact ⟨c, tail, rfl, hc, (List.cons.inj heq).2⟩
    · rintro ⟨_, _, heq, hc, hrest⟩
      obtain ⟨rfl, rfl⟩ := List.cons.inj heq
      rw [form_letter hletter hc, hrest]
      rfl

end Text

namespace Registry

/-! ## §4 Normal forms -/

variable {s : String} {c : Char}

/-- A normal form has no blanks at its ends, and is all in lower case. -/
theorem normalForm_normal (s : String) :
    Text.Trimmed (normalForm s).toList ∧ ∀ c ∈ (normalForm s).toList, Text.Small c := by
  unfold normalForm Text.lower Text.trim
  rw [String.toList_ofList, String.toList_ofList]
  exact ⟨Text.trimmed_lowerAfter (Text.trimmed_trimChars _) [],
    fun c hc => Text.small_of_mem_lowerAfter hc⟩

/-- Such a text is its own normal form. -/
theorem normalForm_of_normal (htrimmed : Text.Trimmed s.toList)
    (hsmall : ∀ c ∈ s.toList, Text.Small c) : normalForm s = s := by
  have htrim : Text.trim s = s := by
    rw [Text.trim, Text.trimChars_of_trimmed htrimmed, String.ofList_toList]
  rw [normalForm, htrim, Text.lower, Text.lowerAfter_of_small hsmall, String.ofList_toList]

theorem normalForm_normalForm (s : String) : normalForm (normalForm s) = normalForm s :=
  normalForm_of_normal (normalForm_normal s).1 (normalForm_normal s).2

/-- The texts whose normal form is `all`: blanks at the ends apart, they are the three letters, each
of them small or capital. -/
theorem normalForm_eq_all : normalForm s = "all" ↔
    ∃ x y z, (Text.trim s).toList = [x, y, z] ∧ (x = 'a' ∨ x = 'A') ∧ (y = 'l' ∨ y = 'L') ∧
      (z = 'l' ∨ z = 'L') := by
  have hlist : normalForm s = "all" ↔
      Text.lowerAfter [] (Text.trim s).toList = ['a', 'l', 'l'] := by
    rw [← String.toList_inj, normalForm, Text.lower, String.toList_ofList]
    rfl
  have ha : ('a', 'A') ∈ Text.lettersOfAll := by decide
  have hl : ('l', 'L') ∈ Text.lettersOfAll := by decide
  rw [hlist, Text.lowerAfter_eq_cons ha]
  constructor
  · rintro ⟨x, _, hx, hxa, hrest⟩
    obtain ⟨y, _, rfl, hyl, hrest⟩ := (Text.lowerAfter_eq_cons hl).mp hrest
    obtain ⟨z, _, rfl, hzl, hrest⟩ := (Text.lowerAfter_eq_cons hl).mp hrest
    obtain rfl := Text.lowerAfter_eq_nil.mp hrest
    exact ⟨x, y, z, hx, hxa, hyl, hzl⟩
  · rintro ⟨x, y, z, hlist, hx, hy, hz⟩
    refine ⟨x, [y, z], hlist, hx, (Text.lowerAfter_eq_cons hl).mpr ⟨y, [z], rfl, hy, ?_⟩⟩
    exact (Text.lowerAfter_eq_cons hl).mpr ⟨z, [], rfl, hz, rfl⟩

/-- What is its own normal form has no capital of ASCII. -/
theorem normalForm_ne_of_capital (hc : c ∈ s.toList) (hcapital : 'A' ≤ c ∧ c ≤ 'Z') :
    normalForm s ≠ s := by
  intro hnormal
  have hsmall : Text.Small c := by
    refine (normalForm_normal s).2 c ?_
    rwa [hnormal]
  have hmoved : ∀ code ∈ List.range' 0x41 26, Text.lowerCode code ≠ code := by decide +kernel
  have hdot : c ≠ 'İ' := by
    rintro rfl
    exact absurd hcapital (by decide)
  have hchar := hsmall.2
  rw [Text.lowerChar, if_neg hdot] at hchar
  refine hmoved c.toNat ?_ ?_
  · have hlow : 0x41 ≤ c.toNat := hcapital.1
    have hhigh : c.toNat ≤ 0x5A := hcapital.2
    rw [List.mem_range'_1]
    omega
  · rw [← Text.toNat_ofNat_lowerCode, (List.cons.inj hchar).1]

/-! ## §5 Selections -/

variable {registry : Registry} {arg name : String} {failure : Failure}

theorem select_eq_all : registry.select arg = .ok .all ↔ normalForm arg = "all" := by
  unfold select
  dsimp only
  split
  · simp [*]
  · split <;> simp [*]

theorem select_eq_one : registry.select arg = .ok (.one name) ↔
    normalForm arg = name ∧ name ≠ "all" ∧ name ∈ registry := by
  unfold select has
  dsimp only
  split
  · grind
  · split <;> grind

theorem select_eq_error : registry.select arg = .error failure ↔
    normalForm arg ≠ "all" ∧ normalForm arg ∉ registry ∧
      failure = .unknownExample (normalForm arg) registry := by
  unfold select has
  dsimp only
  split
  · grind
  · split <;> grind

/-- What is said of the selections from a registry. An argument may be replaced by its normal form.
Everything is selected by the word `all`, blanks at its ends and case apart, whatever the registry
holds. An example is selected if and only if it is in the registry, is not `all`, and is named in
normal form, and then by its own name; so none is whose name has a capital of ASCII or a blank at an
end. In every other case the failure tells the normal form and the whole registry. -/
structure SelectsByNormalForm (registry : Registry) : Prop where
  again : ∀ arg, normalForm (normalForm arg) = normalForm arg ∧
    registry.select (normalForm arg) = registry.select arg
  all : ∀ arg, registry.select arg = .ok .all ↔
    ∃ x y z, (Text.trim arg).toList = [x, y, z] ∧ (x = 'a' ∨ x = 'A') ∧ (y = 'l' ∨ y = 'L') ∧
      (z = 'l' ∨ z = 'L')
  one : ∀ name, (∃ arg, registry.select arg = .ok (.one name)) ↔
    name ∈ registry ∧ name ≠ "all" ∧ normalForm name = name
  itself : ∀ name, (∃ arg, registry.select arg = .ok (.one name)) →
    registry.select name = .ok (.one name)
  capital : ∀ name, (∃ c ∈ name.toList, 'A' ≤ c ∧ c ≤ 'Z') →
    ∀ arg, registry.select arg ≠ .ok (.one name)
  blank : ∀ name, ¬ Text.Trimmed name.toList → ∀ arg, registry.select arg ≠ .ok (.one name)
  other : ∀ arg, registry.select arg ≠ .ok .all →
    (∀ name, registry.select arg ≠ .ok (.one name)) →
    registry.select arg = .error (.unknownExample (normalForm arg) registry)

/-- Selections go by normal forms, whatever the registry holds. -/
theorem select_byNormalForm (registry : Registry) : registry.SelectsByNormalForm := by
  -- the name that an argument selects is a normal form
  have hself : ∀ arg name, registry.select arg = .ok (.one name) → normalForm name = name := by
    intro arg name hselect
    obtain ⟨rfl, -, -⟩ := select_eq_one.mp hselect
    exact normalForm_normalForm arg
  refine ⟨fun arg => ?again, fun arg => ?all, fun name => ?one, fun name => ?itself,
    fun name => ?capital, fun name hblank arg hselect => ?blank, fun arg hall hone => ?other⟩
  case again =>
    refine ⟨normalForm_normalForm arg, ?_⟩
    rw [select, normalForm_normalForm, select]
  case all => rw [select_eq_all, normalForm_eq_all]
  case one =>
    constructor
    · rintro ⟨arg, hselect⟩
      obtain ⟨-, hall, hmem⟩ := select_eq_one.mp hselect
      exact ⟨hmem, hall, hself arg name hselect⟩
    · rintro ⟨hmem, hall, hnormal⟩
      exact ⟨name, select_eq_one.mpr ⟨hnormal, hall, hmem⟩⟩
  case itself =>
    rintro ⟨arg, hselect⟩
    obtain ⟨-, hall, hmem⟩ := select_eq_one.mp hselect
    exact select_eq_one.mpr ⟨hself arg name hselect, hall, hmem⟩
  case capital =>
    rintro ⟨c, hc, hcapital⟩ arg hselect
    exact normalForm_ne_of_capital hc hcapital (hself arg name hselect)
  case blank =>
    refine hblank ?_
    rw [← hself arg name hselect]
    exact (normalForm_normal name).1
  case other =>
    cases hselect : registry.select arg with
    | error failure =>
      obtain ⟨-, -, rfl⟩ := select_eq_error.mp hselect
      rfl
    | ok selected =>
      cases selected with
      | all => exact absurd hselect hall
      | one name => exact absurd hselect (hone name)

end Registry

end Exemplar
