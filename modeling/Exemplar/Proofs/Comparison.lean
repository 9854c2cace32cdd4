/-
Exemplar.Proofs.Comparison — which texts match.

An output matches the text expected exactly if both are one core with blanks around it, which says
nothing of how the two are trimmed. So matching is an equivalence of texts, blanks at the ends of
either of them never change a verdict, and nothing is skipped but a comparison with no text.

  §1 texts with one core
  §2 one verdict at a time
  §3 comparisons
-/
import Exemplar.Comparison
import Exemplar.Proofs.Blanks

namespace Exemplar

/-! ## §1 Texts with one core -/

namespace Text

theorem equivalence_sameCore : Equivalence SameCore where
  refl _ := sameCore_iff.mpr rfl
  symm h := sameCore_iff.mpr (sameCore_iff.mp h).symm
  trans h h' := sameCore_iff.mpr ((sameCore_iff.mp h).trans (sameCore_iff.mp h'))

/-- Blanks around a text leave its core. -/
theorem sameCore_surround {before after : String} (hbefore : allBlank before = true)
    (hafter : allBlank after = true) (s : String) : SameCore (before ++ s ++ after) s :=
  sameCore_iff.mpr (trim_surround hbefore hafter s)

end Text

/-! ## §2 One verdict at a time -/

variable {actual expected : String} {expected? : Option String}

/-- With a text, the verdict is on whether both have one core. -/
theorem verdict_cases (actual expected : String) :
    Text.SameCore actual expected ∧ (compare actual (some expected)).verdict = .matched ∨
    ¬ Text.SameCore actual expected ∧ (compare actual (some expected)).verdict = .mismatched := by
  rw [Text.sameCore_iff, eq_comm]
  unfold compare
  dsimp only
  by_cases heq : Text.trim expected = Text.trim actual
  · rw [if_pos heq]
    exact Or.inl ⟨heq, rfl⟩
  · rw [if_neg heq]
    exact Or.inr ⟨heq, rfl⟩

theorem verdict_eq_matched :
    (compare actual (some expected)).verdict = .matched ↔ Text.SameCore actual expected := by
  rcases verdict_cases actual expected with ⟨hcore, hv⟩ | ⟨hcore, hv⟩ <;> simp [hcore, hv]

theorem verdict_eq_mismatched :
    (compare actual (some expected)).verdict = .mismatched ↔ ¬ Text.SameCore actual expected := by
  rcases verdict_cases actual expected with ⟨hcore, hv⟩ | ⟨hcore, hv⟩ <;> simp [hcore, hv]

theorem verdict_eq_skipped :
    (compare actual expected?).verdict = .skipped ↔ expected? = none := by
  cases expected? with
  | none => simp [compare]
  | some expected =>
    rcases verdict_cases actual expected with ⟨-, hv⟩ | ⟨-, hv⟩ <;> simp [hv]

/-- The verdict on texts depends on their cores only. -/
theorem verdict_congr {actual' expected' : String} (hactual : Text.SameCore actual' actual)
    (hexpected : Text.SameCore expected' expected) :
    (compare actual' (some expected')).verdict = (compare actual (some expected)).verdict := by
  have hsame : Text.SameCore actual' expected' ↔ Text.SameCore actual expected := by
    simp only [Text.sameCore_iff] at hactual hexpected ⊢
    rw [hactual, hexpected]
  by_cases hcore : Text.SameCore actual expected
  · rw [verdict_eq_matched.mpr hcore, verdict_eq_matched.mpr (hsame.mpr hcore)]
  · rw [verdict_eq_mismatched.mpr hcore, verdict_eq_mismatched.mpr (mt hsame.mp hcore)]

/-! ## §3 Comparisons -/

/-- What is said of the comparisons of an output. It matches a text exactly if both have one core,
and differs from all other texts; only without a text the comparison is skipped. Matching is an
equivalence. Whatever blanks are added to the ends of either text or taken from them, the verdict is
the same. The two texts are kept as they were. -/
structure ComparedByCore (actual : String) : Prop where
  matched : ∀ expected, (compare actual (some expected)).verdict = .matched ↔
    ∃ core u v w x, (Text.allBlank u = true ∧ Text.allBlank v = true ∧ Text.allBlank w = true ∧
      Text.allBlank x = true) ∧ actual = u ++ core ++ v ∧ expected = w ++ core ++ x
  mismatched : ∀ expected, (compare actual (some expected)).verdict = .mismatched ↔
    (compare actual (some expected)).verdict ≠ .matched
  skipped : ∀ expected?, (compare actual expected?).verdict = .skipped ↔ expected? = none
  refl : (compare actual (some actual)).verdict = .matched
  symm : ∀ other, (compare actual (some other)).verdict = .matched →
    (compare other (some actual)).verdict = .matched
  trans : ∀ middle other, (compare actual (some middle)).verdict = .matched →
    (compare middle (some other)).verdict = .matched →
      (compare actual (some other)).verdict = .matched
  blanks : ∀ expected? u v w x, Text.allBlank u = true → Text.allBlank v = true →
    Text.allBlank w = true → Text.allBlank x = true →
      (compare (u ++ actual ++ v) (expected?.map fun text => w ++ text ++ x)).verdict =
        (compare actual expected?).verdict
  texts : ∀ expected?, (compare actual expected?).actual = actual ∧
    (compare actual expected?).expected = expected?

/-- Comparisons go by the cores of the texts. -/
theorem compare_byCore (actual : String) : ComparedByCore actual := by
  have hequivalence := Text.equivalence_sameCore
  refine ⟨fun expected => ?matched, fun expected => ?mismatched, fun _ => verdict_eq_skipped,
    verdict_eq_matched.mpr (hequivalence.refl actual), fun other hother => ?symm,
    fun middle other hmiddle hother => ?trans, fun expected? u v w x hu hv hw hx => ?blanks,
    fun _ => ⟨rfl, rfl⟩⟩
  case matched =>
    rw [verdict_eq_matched]
    constructor
    · rintro ⟨core, ⟨u, v, hu, hv, hactual⟩, w, x, hw, hx, hexpected⟩
      exact ⟨core, u, v, w, x, ⟨hu, hv, hw, hx⟩, hactual, hexpected⟩
    · rintro ⟨core, u, v, w, x, ⟨hu, hv, hw, hx⟩, hactual, hexpected⟩
      exact ⟨core, ⟨u, v, hu, hv, hactual⟩, w, x, hw, hx, hexpected⟩
  case mismatched => rw [ne_eq, verdict_eq_matched, verdict_eq_mismatched]
  case symm =>
    exact verdict_eq_matched.mpr (hequivalence.symm (verdict_eq_matched.mp hother))
  case trans =>
    exact verdict_eq_matched.mpr
      (hequivalence.trans (verdict_eq_matched.mp hmiddle) (verdict_eq_matched.mp hother))
  case blanks =>
    cases expected? with
    | none => rfl
    | some expected =>
      exact verdict_congr (Text.sameCore_surround hu hv actual)
        (Text.sameCore_surround hw hx expected)

/-- No-break and ideographic spaces are blanks too; those between the words of a text count. -/
example : (compare "\u00A0 1  2\n" (some "1  2\u3000")).verdict = .matched ∧
    (compare "1  2" (some "1 2")).verdict = .mismatched := by decide

end Exemplar
