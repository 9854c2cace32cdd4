/-
Exemplar.Proofs.ReportText — what a verification tells, and what it counts.

The text of a report follows from what was compared: a line for each script that was written, then
the verdict on what the script wrote, and at the end of a verification of all examples the counts.
The texts are spelled out here once more, from the two texts compared and not from their verdict.

  §1 the texts
  §2 the examples compared
  §3 the counts
  §4 the report of a verification
-/
import Exemplar.Proofs.Course

namespace Exemplar.Harness

variable {σ : Type} (h : Harness σ) (here : Location)

/-! ## §1 The texts -/

/-- Says where the script of an example was written. -/
def scriptLine (name : String) : String :=
  "Output written to " ++ (h.exampleOf name).script.text ++ "\n"

/-- Says what comes of comparing the output of an example with the one expected, if there is one. -/
def verdictBlock (name actual : String) : Option String → String
  | none => "No output.txt file found for " ++ name ++ ", won't compare output\n"
  | some expected =>
    if Text.trim expected = Text.trim actual then
      name ++ ".lua output matches expected output\n"
    else
      name ++ ".lua output does not match expected output\nExpected:\n" ++ expected ++
        "\nActual:\n" ++ actual ++ "\n"

/-- The texts of some examples, each with its output and the one expected. -/
def blocks : List String → List (String × Option String) → String
  | name :: names, (actual, expected) :: pairs =>
    h.scriptLine name ++ verdictBlock name actual expected ++ blocks names pairs
  | _, _ => ""

/-- The last line of a report, for so many examples of each verdict. -/
def summaryLine (matched mismatched skipped : Nat) : String :=
  toString (matched + mismatched + skipped) ++ " examples: " ++ toString matched ++ " matched, " ++
    toString mismatched ++ " mismatched, " ++ toString skipped ++ " skipped\n"

/-- The report on a comparison is the text of its verdict. -/
theorem outcome_compare (name actual : String) (expected : Option String) :
    Report.outcome name (compare actual expected) = verdictBlock name actual expected := by
  cases expected with
  | none => rfl
  | some expected =>
    unfold Report.outcome verdictBlock compare
    dsimp only
    by_cases heq : Text.trim expected = Text.trim actual
    · rw [if_pos heq]
      rw [if_pos heq]
    · rw [if_neg heq]
      rw [if_neg heq]
      rfl

/-- How often a character stands in a text. -/
def countOf (c : Char) (text : String) : Nat := text.toList.count c

theorem countOf_append (c : Char) (s t : String) :
    countOf c (s ++ t) = countOf c s + countOf c t := by
  rw [countOf, String.toList_append, List.count_append, countOf, countOf]

/-- The texts of the three verdicts differ in how many lines they end, or in how they begin. -/
theorem verdictBlock_cases (name actual : String) (expected : Option String) :
    ((compare actual expected).verdict = .matched ∧
      countOf '\n' (verdictBlock name actual expected) = countOf '\n' name + 1 ∧
      countOf 'N' (verdictBlock name actual expected) = countOf 'N' name) ∨
    ((compare actual expected).verdict = .mismatched ∧
      countOf '\n' name + 5 ≤ countOf '\n' (verdictBlock name actual expected)) ∨
    ((compare actual expected).verdict = .skipped ∧
      countOf '\n' (verdictBlock name actual expected) = countOf '\n' name + 1 ∧
      countOf 'N' (verdictBlock name actual expected) = countOf 'N' name + 1) := by
  cases expected with
  | none =>
    have hline : countOf '\n' "No output.txt file found for " = 0 ∧
        countOf '\n' ", won't compare output\n" = 1 := by decide
    have hfirst : countOf 'N' "No output.txt file found for " = 1 ∧
        countOf 'N' ", won't compare output\n" = 0 := by decide
    have hblock : verdictBlock name actual none =
        "No output.txt file found for " ++ name ++ ", won't compare output\n" := rfl
    rw [hblock]
    simp only [countOf_append, hline, hfirst]
    exact Or.inr (Or.inr ⟨rfl, by omega, by omega⟩)
  | some expected =>
    unfold verdictBlock compare
    dsimp only
    by_cases heq : Text.trim expected = Text.trim actual
    · have hline : countOf '\n' ".lua output matches expected output\n" = 1 ∧
          countOf 'N' ".lua output matches expected output\n" = 0 := by decide
      rw [if_pos heq, if_pos heq, countOf_append, countOf_append, hline.1, hline.2]
      exact Or.inl ⟨rfl, rfl, rfl⟩
    · have hlines : countOf '\n' ".lua output does not match expected output\nExpected:\n" = 2 ∧
          countOf '\n' "\nActual:\n" = 2 ∧ countOf '\n' "\n" = 1 := by decide
      rw [if_neg heq, if_neg heq]
      refine Or.inr (Or.inl ⟨rfl, ?_⟩)
      simp only [countOf_append, hlines]
      omega

/-- The report on a comparison says which verdict it was. -/
theorem verdictBlock_inj {name actual actual' : String} {expected expected' : Option String}
    (heq : verdictBlock name actual expected = verdictBlock name actual' expected') :
    (compare actual expected).verdict = (compare actual' expected').verdict := by
  have hone := verdictBlock_cases name actual expected
  have hother := verdictBlock_cases name actual' expected'
  rw [heq] at hone
  rcases hone with ⟨hv, hone⟩ | ⟨hv, hone⟩ | ⟨hv, hone⟩ <;>
    rcases hother with ⟨hv', hother⟩ | ⟨hv', hother⟩ | ⟨hv', hother⟩ <;>
    first
      | exact hv.trans hv'.symm
      | omega

/-- The report on a script is its line. -/
theorem scriptWritten_script (name : String) :
    Report.scriptWritten (h.exampleOf name).script = h.scriptLine name := rfl

/-! ## §2 The examples compared -/

/-- An example whose compilation from a stage, its build done, comes to an end that is no
failure. -/
def Compiled (name : String) (s : Stage σ) : Prop :=
  ∃ uses script t, h.Compiles here (h.exampleOf name) (h.building (h.exampleOf name) s).after uses
    (.ok script) t

/-- Examples that were compared one after the other, each from the stage that the one before it
left: what the runtime wrote for each of them, and what its fixture held after that. -/
inductive Compared : List String → Stage σ → List (String × Option String) → Stage σ → Prop
  | nil {s : Stage σ} : Compared [] s [] s
  | cons {name : String} {names : List String} {s t u v : Stage σ} {uses uses' : List (Use σ)}
      {script actual : String} {expected : Option String}
      {pairs : List (String × Option String)}
      (hcompile : h.Compiles here (h.exampleOf name) (h.building (h.exampleOf name) s).after
        uses (.ok script) t)
      (hrun : h.Runs here (h.exampleOf name) t uses' (.ok actual) u)
      (hexpected : u.files.expected here (h.exampleOf name) = .ok expected)
      (hrest : Compared names u pairs v) :
      Compared (name :: names) s ((actual, expected) :: pairs) v

section

variable {h here} {name : String} {names : List String} {s t : Stage σ}
  {uses uses' : List (Use σ)} {segments : List (List (Use σ))} {text : String}

/-- The text of an example that is compared. -/
theorem Course.compared_text {comparison : Comparison}
    (hcourse : h.Course here name s uses text (.ok comparison) t) :
    ∃ actual expected, comparison = compare actual expected ∧
      text = h.scriptLine name ++ verdictBlock name actual expected ∧
      ∀ {names : List String} {pairs : List (String × Option String)} {v : Stage σ},
        h.Compared here names t pairs v →
          h.Compared here (name :: names) s ((actual, expected) :: pairs) v := by
  cases hcourse with
  | @compared _ _ _ actual expected _ _ hcompile hrun hexpected =>
    refine ⟨actual, expected, rfl, ?_, fun hrest => .cons hcompile hrun hexpected hrest⟩
    rw [outcome_compare, scriptWritten_script]

/-- The text of an example that fails: the line for its script, if there is one. -/
theorem Course.failed_text {failure : Failure}
    (hcourse : h.Course here name s uses text (.error failure) t) :
    (h.Compiled here name s → text = h.scriptLine name) ∧
    (¬ h.Compiled here name s → text = "") := by
  cases hcourse with
  | uncompiled hcompile =>
    refine ⟨fun ⟨_, _, _, hcompile'⟩ => ?_, fun _ => rfl⟩
    obtain ⟨-, hresult, -⟩ := hcompile.unique hcompile'
    cases hresult
  | unrun hcompile _ =>
    exact ⟨fun _ => scriptWritten_script h name, fun hnot => absurd ⟨_, _, _, hcompile⟩ hnot⟩
  | uncompared hcompile _ _ =>
    exact ⟨fun _ => scriptWritten_script h name, fun hnot => absurd ⟨_, _, _, hcompile⟩ hnot⟩

/-- The text of a list of examples none of which fails. -/
theorem Courses.compared {ending : List Comparison × Option Failure}
    (hcourses : h.Courses here names s segments text ending t) (hend : ending.2 = none) :
    ∃ pairs, h.Compared here names s pairs t ∧ text = h.blocks names pairs ∧
      ending.1 = pairs.map fun pair => compare pair.1 pair.2 := by
  induction hcourses with
  | done => exact ⟨[], .nil, rfl, rfl⟩
  | stop _ => cases hend
  | next hcourse _ ih =>
    obtain ⟨pairs, hcompared, rfl, hmap⟩ := ih hend
    obtain ⟨actual, expected, rfl, rfl, hcons⟩ := hcourse.compared_text
    refine ⟨(actual, expected) :: pairs, hcons hcompared, rfl, ?_⟩
    rw [List.map_cons, ← hmap]

end

/-! ## §3 The counts -/

/-- How many of some pairs of texts have a verdict. -/
def tally (verdict : Verdict) (pairs : List (String × Option String)) : Nat :=
  pairs.countP fun pair => (compare pair.1 pair.2).verdict = verdict

/-- Counting verdicts one by one comes to how often each of them is there. -/
theorem foldl_record (comparisons : List Comparison) (counts : Summary) :
    comparisons.foldl (fun counts comparison => counts.record comparison.verdict) counts =
      ⟨counts.matched + comparisons.countP (·.verdict = .matched),
        counts.mismatched + comparisons.countP (·.verdict = .mismatched),
        counts.skipped + comparisons.countP (·.verdict = .skipped)⟩ := by
  induction comparisons generalizing counts with
  | nil => rfl
  | cons comparison comparisons ih =>
    rw [List.foldl_cons, ih]
    cases hverdict : comparison.verdict <;> simp [Summary.record, hverdict] <;> omega

/-- Every pair of texts has one of the three verdicts. -/
theorem tally_total (pairs : List (String × Option String)) :
    tally .matched pairs + tally .mismatched pairs + tally .skipped pairs = pairs.length := by
  induction pairs with
  | nil => rfl
  | cons pair pairs ih =>
    cases hverdict : (compare pair.1 pair.2).verdict <;>
      simp [tally, hverdict] at ih ⊢ <;> omega

theorem Compared.length_eq {names : List String} {s t : Stage σ}
    {pairs : List (String × Option String)} (hcompared : h.Compared here names s pairs t) :
    pairs.length = names.length := by
  induction hcompared with
  | nil => rfl
  | cons _ _ _ _ ih => simp [ih]

/-! ## §4 The report of a verification -/

/-- The report of a verification of examples none of which failed: their texts, and the line of the
counts if `all` of them were asked for. Each verdict is counted as often as it was told. -/
def Completed (h : Harness σ) (here : Location) (all : Prop) [Decidable all] (names : List String)
    (s t : Stage σ) (text : String) (counts : Summary) : Prop :=
  ∃ pairs, h.Compared here names s pairs t ∧
    text = h.blocks names pairs ++
      (if all then summaryLine counts.matched counts.mismatched counts.skipped else "") ∧
    counts = ⟨tally .matched pairs, tally .mismatched pairs, tally .skipped pairs⟩ ∧
    counts.matched + counts.mismatched + counts.skipped = names.length

/-- The report of a verification that one example ended by its failure: the texts of the examples
before it, all of which were compared, and the line for its script if that was written. No example
after it was begun. -/
def Aborted (h : Harness σ) (here : Location) (names : List String) (s : Stage σ)
    (failure : Failure) (t : Stage σ) (text : String) : Prop :=
  ∃ done name rest pairs m uses line, names = done ++ name :: rest ∧
    h.Compared here done s pairs m ∧ h.Course here name m uses line (.error failure) t ∧
    text = h.blocks done pairs ++ line ∧
    (h.Compiled here name m → line = h.scriptLine name) ∧
    (¬ h.Compiled here name m → line = "")

/-- The report of a verification that ended in a result and left a world. Nothing is told or done if
nothing was selected. -/
def Reported (h : Harness σ) (arg : String) (w : World σ) (result : Except Failure Summary)
    (after : World σ) : Prop :=
  ∃ text, after.sink.taken = w.sink.taken ++ Utf8.encode text ∧
    match h.selection w arg with
    | .error failure => result = .error failure ∧ text = "" ∧ after.stage = w.stage
    | .ok (registry, selected) =>
      match result with
      | .ok counts =>
        h.Completed w.here (selected = .all) (selected.names registry) w.stage after.stage text
          counts
      | .error failure =>
        h.Aborted w.here (selected.names registry) w.stage failure after.stage text

/-- What a verification tells follows from what it compared, whatever it is asked for. -/
theorem verifySelected_reported (h : Harness σ) (arg : String) (w : World σ)
    (hw : w.Unlimited) :
    h.Reported arg w ((h.verifySelected arg).perform w).1
      ((h.verifySelected arg).perform w).2 := by
  have hrun : (h.verifySelected arg).perform w =
    (((h.verifySelected arg).perform w).1, ((h.verifySelected arg).perform w).2) := rfl
  have hgoes := h.verifySelected_goes arg hw hrun
  unfold Reported
  rcases hselection : h.selection w arg with failure | ⟨registry, selected⟩
  · rw [hselection] at hgoes
    obtain ⟨hresult, hstage, hgained⟩ := hgoes
    exact ⟨"", by rw [hgained.sink], hresult, rfl, hstage⟩
  · rw [hselection] at hgoes
    obtain ⟨segments, text, comparisons, failure?, hcourses, hend⟩ := hgoes
    cases failure? with
    | some failure =>
      obtain ⟨hresult, hgained⟩ := hend
      refine ⟨text, by rw [hgained.sink], ?_⟩
      rw [hresult]
      obtain ⟨done, name, rest, _, _, _, line, _, m, hnames, -, rfl, hdone, hcut⟩ :=
        hcourses.cut rfl
      obtain ⟨pairs, hcompared, rfl, -⟩ := hdone.compared rfl
      exact ⟨done, name, rest, pairs, m, _, line, hnames, hcompared, hcut, rfl, hcut.failed_text⟩
    | none =>
      obtain ⟨hresult, hgained⟩ := hend
      obtain ⟨pairs, hcompared, rfl, hmap⟩ := hcourses.compared rfl
      have hcounts : countsOf comparisons =
          ⟨tally .matched pairs, tally .mismatched pairs, tally .skipped pairs⟩ := by
        rw [countsOf, show comparisons = _ from hmap, foldl_record]
        simp [tally, List.countP_map, Function.comp_def]
      refine ⟨_, by rw [hgained.sink], ?_⟩
      rw [hresult]
      refine ⟨pairs, hcompared, rfl, hcounts, ?_⟩
      rw [hcounts, ← hcompared.length_eq]
      exact tally_total pairs

/-- In the small world all examples are selected; the first one is compared and reported, and the
second one ends the verification before it has a script. -/
theorem verifySelected_reported_sample :
    Sample.world.Unlimited ∧
    Sample.harness.selection Sample.world " All " = .ok (["a", "b"], .all) ∧
    ((Sample.harness.verifySelected " All ").perform Sample.world).1 =
      .error (.missingArtifact "b" ⟨"/ex/b/bin/Release/net8.0/b.dll"⟩) ∧
    ((Sample.harness.verifySelected " All ").perform Sample.world).2.sink.taken =
      Utf8.encode "Output written to /ex/a/a.lua\na.lua output matches expected output\n" ∧
    Sample.harness.Reported " All " Sample.world
      ((Sample.harness.verifySelected " All ").perform Sample.world).1
      ((Sample.harness.verifySelected " All ").perform Sample.world).2 :=
  ⟨rfl, by decide +kernel, by decide +kernel, by decide +kernel,
    verifySelected_reported Sample.harness " All " Sample.world rfl⟩

end Exemplar.Harness
