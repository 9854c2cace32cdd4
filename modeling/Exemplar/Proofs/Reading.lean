/-
Exemplar.Proofs.Reading — a fixture that cannot be read is not absent.

A fixture is absent if its path fails because something does not exist, be it the target of a link.
It holds a text if its path leads to a file whose bytes are that text. Everything else is a failure
that names the fixture. In a verification the absence of the output expected is what makes an
example skipped, as it is when the runtime has ended, and an input that cannot be read keeps the
runtime from being called at all.

  §1 files that may be absent
  §2 the fixtures of an example
  §3 the turns of a verification
  §4 what a turn makes of its fixtures
  §5 verifications
-/
import Exemplar.Proofs.Comparison
import Exemplar.Proofs.ReportText
import Exemplar.Proofs.Resolution
import Exemplar.Proofs.Utf8

namespace Exemplar

variable {σ : Type}

/-! ## §1 Files that may be absent -/

namespace FileSystem

variable {fs : FileSystem} {here : Location} {path : Path}

/-- Whether a path leads to a file that holds a text. -/
def Holds (fs : FileSystem) (here : Location) (path : Path) (text : String) : Prop :=
  ∃ location file, fs.Ends here path (.file location file) ∧ file.data = Utf8.encode text

/-- Whether a path leads to something that holds no text or is refused, and why. -/
inductive Unreadable (fs : FileSystem) (here : Location) (path : Path) : Cause → Prop
  | refused {cause : Cause} (hrefused : fs.Refused here path cause) : Unreadable fs here path cause
  | directory {location : Location} (hends : fs.Ends here path (.directory location)) :
      Unreadable fs here path (.system .isDirectory)
  | malformed {location : Location} {file : File} (hends : fs.Ends here path (.file location file))
      (hdata : ∀ text, file.data ≠ Utf8.encode text) : Unreadable fs here path .malformedText

theorem read_eq_found : fs.read here path = match fs.found here path with
    | .ok (_, .file file) => .ok file.data
    | .ok _ => .error (.system .isDirectory)
    | .error cause => .error cause := by
  rw [read, stat_eq_found]
  rcases fs.found here path with cause | ⟨location, _ | _ | _⟩ <;> rfl

/-- What reading a file that may be absent comes to, for each way in which its path can end. -/
theorem readOptional_absent (habsent : fs.Absent here path) :
    fs.readOptional here path = .ok none := by
  rw [readOptional, readText, read_eq_found, habsent.found]
  rfl

theorem readOptional_holds {text : String} (hholds : fs.Holds here path text) :
    fs.readOptional here path = .ok (some text) := by
  obtain ⟨location, file, hends, hdata⟩ := hholds
  rw [readOptional, readText, read_eq_found, hends.found]
  simp [Stop.found, Except.mapError, hdata, Utf8.decode?_encode]

theorem readOptional_unreadable {cause : Cause} (hunreadable : fs.Unreadable here path cause) :
    fs.readOptional here path = .error (.access path cause) := by
  rw [readOptional, readText, read_eq_found]
  cases hunreadable with
  | refused hrefused =>
    rw [hrefused.found]
    simp [hrefused.ne_noEntry]
  | directory hends =>
    rw [hends.found]
    rfl
  | @malformed location file hends hdata =>
    have hdecode : Utf8.decode? file.data = none := by
      cases htext : Utf8.decode? file.data with
      | none => rfl
      | some text => exact absurd (Utf8.decode?_eq_some.mp htext) (hdata text)
    rw [hends.found]
    simp [Stop.found, Except.mapError, hdecode]

/-- A file that may be absent is, or it holds a text, or it cannot be read. -/
theorem reading_cases (fs : FileSystem) (here : Location) (path : Path) :
    fs.Absent here path ∨ (∃ text, fs.Holds here path text) ∨
      ∃ cause, fs.Unreadable here path cause := by
  rcases fs.path_cases here path with ⟨location, h⟩ | ⟨location, file, h⟩ | h | ⟨cause, h⟩
  · exact Or.inr (Or.inr ⟨_, .directory h⟩)
  · cases hdecode : Utf8.decode? file.data with
    | some text =>
      exact Or.inr (Or.inl ⟨text, location, file, h, Utf8.decode?_eq_some.mp hdecode⟩)
    | none =>
      refine Or.inr (Or.inr ⟨_, .malformed h fun text hdata => ?_⟩)
      rw [hdata, Utf8.decode?_encode] at hdecode
      cases hdecode
  · exact Or.inl h
  · exact Or.inr (Or.inr ⟨cause, .refused h⟩)

/-- What reading a file that may be absent says of its path: nothing is given exactly if the path
ends where nothing is, a text exactly if the path leads to a file that holds it, and the failure
names the path and the cause for which it cannot be read. -/
structure ReadsIfPresent (fs : FileSystem) (here : Location) (path : Path)
    (result : Except Failure (Option String)) : Prop where
  absent : result = .ok none ↔ fs.Ends here path .missing
  held : ∀ text, result = .ok (some text) ↔ fs.Holds here path text
  failed : ∀ failure, result = .error failure ↔
    ∃ cause, failure = .access path cause ∧ fs.Unreadable here path cause

theorem readOptional_reads (fs : FileSystem) (here : Location) (hpath : path.text ≠ "") :
    ReadsIfPresent fs here path (fs.readOptional here path) := by
  have habsent : fs.Absent here path ↔ fs.Ends here path .missing :=
    ⟨fun h => h.resolve_left hpath, Or.inr⟩
  refine ⟨⟨fun hresult => ?_, fun h => readOptional_absent (habsent.mpr h)⟩,
    fun text => ⟨fun hresult => ?_, readOptional_holds⟩, fun failure => ⟨fun hresult => ?_, ?_⟩⟩
  case refine_4 =>
    rintro ⟨cause, rfl, hunreadable⟩
    exact readOptional_unreadable hunreadable
  all_goals
    rcases fs.reading_cases here path with h | ⟨text, h⟩ | ⟨cause, h⟩
  · exact habsent.mp h
  · cases (readOptional_holds h).symm.trans hresult
  · cases (readOptional_unreadable h).symm.trans hresult
  · cases (readOptional_absent h).symm.trans hresult
  · obtain rfl := Option.some.inj (Except.ok.inj ((readOptional_holds h).symm.trans hresult))
    exact h
  · cases (readOptional_unreadable h).symm.trans hresult
  · cases (readOptional_absent h).symm.trans hresult
  · cases (readOptional_holds h).symm.trans hresult
  · exact ⟨cause, Except.error.inj (hresult.symm.trans (readOptional_unreadable h)), h⟩

/-! ## §2 The fixtures of an example -/

variable {ex : Example}

/-- What is said of the fixtures of an example. The output expected is read as it is. The input is
what the fixture holds, or empty if that is absent. A fixture that is a link whose target does not
exist is absent, and one whose path leads in a circle of links cannot be read. -/
structure ReadsFixtures (fs : FileSystem) (here : Location) (ex : Example) : Prop where
  expected : ReadsIfPresent fs here ex.expectedFixture (fs.expected here ex)
  input : ∀ text, fs.input here ex = .ok text ↔ fs.Holds here ex.inputFixture text ∨
    text = "" ∧ fs.Ends here ex.inputFixture .missing
  inputFailed : ∀ failure, fs.input here ex = .error failure ↔
    ∃ cause, failure = .access ex.inputFixture cause ∧ fs.Unreadable here ex.inputFixture cause
  links : ∀ path ∈ [ex.inputFixture, ex.expectedFixture],
    (fs.Dangles here path → fs.Ends here path .missing) ∧
      (fs.Circles here path → ∃ cause, fs.Unreadable here path cause)

theorem readsFixtures (fs : FileSystem) (here : Location) (ex : Example) :
    ReadsFixtures fs here ex := by
  have hexpected : ex.expectedFixture.text ≠ "" := Path.join_ne_empty _ (by decide)
  have hinput : ex.inputFixture.text ≠ "" := Path.join_ne_empty _ (by decide)
  have hreads := readOptional_reads fs here hinput
  refine ⟨readOptional_reads fs here hexpected, fun text => ?input, fun failure => ?failed,
    fun path hpath => ⟨Dangles.ends, fun hcircles => ?circles⟩⟩
  case input =>
    rw [← hreads.absent, ← hreads.held]
    unfold FileSystem.input
    rcases fs.readOptional here ex.inputFixture with failure | (_ | held) <;>
      simp [eq_comm]
  case failed =>
    rw [← hreads.failed]
    unfold FileSystem.input
    rcases fs.readOptional here ex.inputFixture with failure' | (_ | held) <;> simp
  case circles =>
    have hnonempty : path.text ≠ "" := by
      simp only [List.mem_cons, List.not_mem_nil, or_false] at hpath
      rcases hpath with rfl | rfl
      · exact hinput
      · exact hexpected
    obtain ⟨cause, hrefused⟩ := hcircles.refused hnonempty
    exact ⟨cause, .refused hrefused⟩

end FileSystem

/-! ## §3 The turns of a verification -/

namespace Harness

/-- The turn of an example in a verification: the stage from which it goes, the uses it makes of the
tools, the text it tells, how it ends, and the stage it leaves. -/
structure Turn (h : Harness σ) (here : Location) where
  name : String
  before : Stage σ
  uses : List (Use σ)
  text : String
  result : Except Failure Comparison
  after : Stage σ
  goes : h.Course here name before uses text result after

variable {h : Harness σ} {here : Location}

namespace Turn

/-- Whether the end of an example is counted as skipped. -/
def skips : Except Failure Comparison → Bool
  | .ok comparison => comparison.verdict = .skipped
  | .error _ => false

/-- Whether an example is counted as skipped. -/
def skipped (turn : h.Turn here) : Bool := skips turn.result

/-- Whether turns lead from one stage to another, each going from where the one before it ended. -/
def Lead : Stage σ → List (h.Turn here) → Stage σ → Prop
  | s, [], t => s = t
  | s, turn :: turns, t => turn.before = s ∧ Lead turn.after turns t

end Turn

variable {names : List String} {s t : Stage σ} {segments : List (List (Use σ))} {text : String}

/-- Examples that go by the rules take turns, up to the first that fails. -/
theorem Courses.turns {ending : List Comparison × Option Failure}
    (hcourses : h.Courses here names s segments text ending t) :
    ∃ turns : List (h.Turn here), Turn.Lead s turns t ∧ segments = turns.map Turn.uses ∧
      Utf8.encode text = turns.flatMap (fun turn => Utf8.encode turn.text) ∧
      turns.map Turn.name <+: names ∧
      (ending.2 = none → turns.map Turn.name = names ∧
        turns.map Turn.result = ending.1.map Except.ok) := by
  induction hcourses with
  | done => exact ⟨[], rfl, rfl, rfl, List.nil_prefix, fun _ => ⟨rfl, rfl⟩⟩
  | @stop name names s t uses text failure hcourse =>
    refine ⟨[⟨name, s, uses, text, _, t, hcourse⟩], ⟨rfl, rfl⟩, rfl, ?_, ?_, fun hend => ?_⟩
    · simp
    · exact ⟨names, rfl⟩
    · cases hend
  | @next name names s t u uses segments text text' comparison comparisons failure? hcourse _ ih =>
    obtain ⟨turns, hlead, rfl, htext, ⟨rest, hnames⟩, hall⟩ := ih
    refine ⟨⟨name, s, uses, text, _, t, hcourse⟩ :: turns, ⟨rfl, hlead⟩, rfl, ?_, ⟨rest, ?_⟩,
      fun hend => ?_⟩
    · rw [List.flatMap_cons, ← htext]
      simp [Utf8.encode]
    · rw [List.map_cons, List.cons_append, hnames]
    · obtain ⟨hnames, hresults⟩ := hall hend
      exact ⟨by rw [List.map_cons, hnames], by rw [List.map_cons, hresults, List.map_cons]⟩

/-! ## §4 What a turn makes of its fixtures -/

/-- Whether a use is a call without input, as building and compiling are. -/
def unfed (use : Use σ) : Bool :=
  match use.event with
  | .call call => call.stdin.isNone
  | _ => false

variable {ex : Example} {name : String} {uses uses' : List (Use σ)} {use : Use σ} {m : Stage σ}
  {program : Bytes} {input : String} {outcome : Outcome} {cause : Cause}

theorem Compiles.unfed {result : Except Failure String} {b : Stage σ}
    (hcompile : h.Compiles here ex s uses result t) (huse : use ∈ h.building ex b :: uses) :
    unfed use = true := by
  rcases List.mem_cons.mp huse with rfl | hcompiling
  · rfl
  cases hcompile with
  | missing _ => cases hcompiling
  | unstarted _ _ | failed _ _ _ | unwritable _ _ _ _ | written _ _ _ _ =>
    obtain rfl := List.mem_singleton.mp hcompiling
    rfl

/-- A use that is no call without input comes after the compilation. -/
theorem Compiles.mem_after {result : Except Failure String} {b : Stage σ}
    (hcompile : h.Compiles here ex s uses result t)
    (huse : use ∈ h.building ex b :: uses ++ uses') (hfed : Harness.unfed use = false) :
    use ∈ uses' := by
  rcases List.mem_append.mp huse with hearly | hlate
  · rw [hcompile.unfed hearly] at hfed
    cases hfed
  · exact hlate

theorem searching_ne_running : h.searching s ≠ h.running ex m program input :=
  fun heq => by cases congrArg Use.event heq

/-- Of the two uses that running a script makes, the call is the second. Two paths of the runtime
may be shown as the same text, so only the call is known to be the same. -/
theorem running_of_mem {program' : Bytes} {input' : String}
    (huse : h.running ex m program input ∈
      [h.searching s, h.running ex (h.searching s).after program' input']) :
    m = (h.searching s).after ∧ h.runCall ex program input = h.runCall ex program' input' ∧
      input = input' := by
  have heq := List.mem_singleton.mp
    ((List.mem_cons.mp huse).resolve_left fun heq => searching_ne_running heq.symm)
  have hcall : h.runCall ex program input = h.runCall ex program' input' :=
    Event.call.inj (congrArg Use.event heq)
  have hstdin : Utf8.encode input = Utf8.encode input' :=
    Option.some.inj (congrArg Call.stdin hcall)
  have hdecoded := congrArg Utf8.decode? hstdin
  rw [Utf8.decode?_encode, Utf8.decode?_encode] at hdecoded
  exact ⟨congrArg Use.before heq, hcall, Option.some.inj hdecoded⟩

/-- A script is run on the input as it is read there. -/
theorem Runs.fed {result : Except Failure String} (hrun : h.Runs here ex s uses result t)
    (huse : h.running ex m program input ∈ uses) : m.files.input here ex = .ok input := by
  cases hrun with
  | unavailable _ | unread _ _ =>
    exact absurd (List.mem_singleton.mp huse).symm searching_ne_running
  | unstarted _ hinput _ | failed _ hinput _ _ | finished _ hinput _ _ =>
    obtain ⟨rfl, -, rfl⟩ := running_of_mem huse
    exact hinput

/-- If a script was run and ended with the code zero, that was the end of the phase. -/
theorem Runs.of_running {result : Except Failure String}
    (hrun : h.Runs here ex s uses result t) (huse : h.running ex m program input ∈ uses)
    (hanswer : (m.answer h.tools (h.runCall ex program input)).outcome = .ok outcome)
    (hcode : outcome.code = some 0) :
    t = (h.running ex m program input).after ∧ result = .ok outcome.stdout := by
  cases hrun with
  | unavailable _ | unread _ _ =>
    exact absurd (List.mem_singleton.mp huse).symm searching_ne_running
  | unstarted _ _ hanswer' =>
    obtain ⟨rfl, hcall, -⟩ := running_of_mem huse
    rw [hcall] at hanswer
    cases hanswer.symm.trans hanswer'
  | failed _ _ hanswer' hcode' =>
    obtain ⟨rfl, hcall, -⟩ := running_of_mem huse
    rw [hcall] at hanswer
    obtain rfl := Except.ok.inj (hanswer.symm.trans hanswer')
    exact absurd hcode hcode'
  | finished _ _ hanswer' _ =>
    obtain ⟨rfl, hcall, -⟩ := running_of_mem huse
    rw [hcall] at hanswer
    obtain rfl := Except.ok.inj (hanswer.symm.trans hanswer')
    exact ⟨by rw [running, running, hcall], rfl⟩

/-- If the input cannot be read once the runtime was looked for, that was the end of the phase. -/
theorem Runs.of_unreadable {result : Except Failure String}
    (hrun : h.Runs here ex s uses result t) (huse : h.searching m ∈ uses)
    (hinput : (h.searching m).after.files.Unreadable here ex.inputFixture cause) :
    uses = [h.searching m] ∧ ∃ failure, result = .error failure ∧
      ((m.find h.tools h.settings.runtime.program).1.isSome →
        failure = .access ex.inputFixture cause) := by
  obtain rfl : m = s := by
    cases hrun with
    | unavailable _ | unread _ _ => exact congrArg Use.before (List.mem_singleton.mp huse)
    | unstarted _ _ _ | failed _ _ _ _ | finished _ _ _ _ =>
      refine congrArg Use.before ((List.mem_cons.mp huse).resolve_right fun hlast => ?_)
      exact searching_ne_running (List.mem_singleton.mp hlast)
  have hfailed := ((FileSystem.readsFixtures (h.searching m).after.files here ex).inputFailed
    _).mpr ⟨cause, rfl, hinput⟩
  cases hrun with
  | unavailable hfind =>
    refine ⟨rfl, _, rfl, fun hsome => ?_⟩
    rw [hfind] at hsome
    cases hsome
  | unread _ hinput' =>
    exact ⟨rfl, _, rfl, fun _ => Except.error.inj (hinput'.symm.trans hfailed)⟩
  | unstarted _ hread _ | failed _ hread _ _ | finished _ hread _ _ =>
    cases hread.symm.trans hfailed

/-- An example's script is run on the input as it is read there. -/
theorem Course.fed {result : Except Failure Comparison}
    (hcourse : h.Course here name s uses text result t)
    (huse : h.running (h.exampleOf name) m program input ∈ uses) :
    m.files.input here (h.exampleOf name) = .ok input := by
  cases hcourse with
  | uncompiled hcompile => cases hcompile.unfed huse
  | unrun hcompile hrun | uncompared hcompile hrun _ | compared hcompile hrun _ =>
    exact hrun.fed (hcompile.mem_after huse rfl)

/-- If a script was run and ended with the code zero, all that is left is to compare what it
wrote with the fixture as it is then. -/
theorem Course.of_running {result : Except Failure Comparison}
    (hcourse : h.Course here name s uses text result t)
    (huse : h.running (h.exampleOf name) m program input ∈ uses)
    (hanswer : (m.answer h.tools (h.runCall (h.exampleOf name) program input)).outcome =
      .ok outcome) (hcode : outcome.code = some 0) :
    t = (h.running (h.exampleOf name) m program input).after ∧
    ((∃ failure, t.files.expected here (h.exampleOf name) = .error failure ∧
      result = .error failure ∧ text = h.scriptLine name) ∨
    ∃ actual expected, t.files.expected here (h.exampleOf name) = .ok expected ∧
      result = .ok (compare actual expected) ∧
      text = h.scriptLine name ++ verdictBlock name actual expected) := by
  cases hcourse with
  | uncompiled hcompile => cases hcompile.unfed huse
  | unrun hcompile hrun =>
    obtain ⟨-, hresult⟩ := hrun.of_running (hcompile.mem_after huse rfl) hanswer hcode
    cases hresult
  | uncompared hcompile hrun hexpected =>
    obtain ⟨hafter, -⟩ := hrun.of_running (hcompile.mem_after huse rfl) hanswer hcode
    exact ⟨hafter, Or.inl ⟨_, hexpected, rfl, scriptWritten_script h name⟩⟩
  | compared hcompile hrun hexpected =>
    obtain ⟨hafter, -⟩ := hrun.of_running (hcompile.mem_after huse rfl) hanswer hcode
    refine ⟨hafter, Or.inr ⟨_, _, hexpected, rfl, ?_⟩⟩
    rw [outcome_compare, scriptWritten_script]

/-- If the input cannot be read once the runtime was looked for, the script is not run. -/
theorem Course.of_unreadable {result : Except Failure Comparison}
    (hcourse : h.Course here name s uses text result t) (huse : h.searching m ∈ uses)
    (hinput : (h.searching m).after.files.Unreadable here (h.exampleOf name).inputFixture cause) :
    (∀ use ∈ uses, ∀ program input,
      use.event ≠ .call (h.runCall (h.exampleOf name) program input)) ∧
    ((m.find h.tools h.settings.runtime.program).1.isSome →
      result = .error (.access (h.exampleOf name).inputFixture cause)) := by
  cases hcourse with
  | uncompiled hcompile => cases hcompile.unfed huse
  | unrun hcompile hrun =>
    obtain ⟨rfl, failure, hresult, hfailure⟩ :=
      hrun.of_unreadable (hcompile.mem_after huse rfl) hinput
    obtain rfl := Except.error.inj hresult
    refine ⟨fun use hmem program input hevent => ?_, fun hsome => congrArg _ (hfailure hsome)⟩
    rcases List.mem_append.mp hmem with hearly | hlate
    · have hunfed := hcompile.unfed hearly
      rw [Harness.unfed, hevent] at hunfed
      cases hunfed
    · rw [List.mem_singleton.mp hlate] at hevent
      cases hevent
  | uncompared hcompile hrun _ | compared hcompile hrun _ =>
    obtain ⟨-, failure, hresult, -⟩ :=
      hrun.of_unreadable (hcompile.mem_after huse rfl) hinput
    cases hresult

/-- What is said of a turn by the fixtures of its example. The script is run only on the input that
its fixture holds then, or on none if that is absent. If it was run and ended with the code zero,
the example is counted as skipped, and reported so, exactly if the output expected was absent when
the runtime had ended. If the input cannot be read when the runtime was looked for, the script is
not run, and if the runtime was found the turn fails with the fixture. -/
structure Turn.ByFixtures (turn : h.Turn here) : Prop where
  fed : ∀ (m : Stage σ) (program : Bytes) (input : String),
    h.running (h.exampleOf turn.name) m program input ∈ turn.uses →
      m.files.Holds here (h.exampleOf turn.name).inputFixture input ∨
        input = "" ∧ m.files.Ends here (h.exampleOf turn.name).inputFixture .missing
  skipped : ∀ (m : Stage σ) (program : Bytes) (input : String) (outcome : Outcome),
    h.running (h.exampleOf turn.name) m program input ∈ turn.uses →
    (m.answer h.tools (h.runCall (h.exampleOf turn.name) program input)).outcome = .ok outcome →
    outcome.code = some 0 →
      (turn.skipped = true ↔
        (h.running (h.exampleOf turn.name) m program input).after.files.Ends here
          (h.exampleOf turn.name).expectedFixture .missing) ∧
      (turn.text = h.scriptLine turn.name ++
          ("No output.txt file found for " ++ turn.name ++ ", won't compare output\n") ↔
        (h.running (h.exampleOf turn.name) m program input).after.files.Ends here
          (h.exampleOf turn.name).expectedFixture .missing)
  unread : ∀ (m : Stage σ) (cause : Cause), h.searching m ∈ turn.uses →
    (h.searching m).after.files.Unreadable here (h.exampleOf turn.name).inputFixture cause →
      (∀ use ∈ turn.uses, ∀ program input,
        use.event ≠ .call (h.runCall (h.exampleOf turn.name) program input)) ∧
      ((m.find h.tools h.settings.runtime.program).1.isSome →
        turn.result = .error (.access (h.exampleOf turn.name).inputFixture cause))

theorem Turn.byFixtures (turn : h.Turn here) : turn.ByFixtures := by
  refine ⟨fun m program input huse => ((FileSystem.readsFixtures m.files here _).input input).mp
      (turn.goes.fed huse), fun m program input outcome huse hanswer hcode => ?_,
    fun m cause huse hinput => turn.goes.of_unreadable huse hinput⟩
  -- the text of a comparison with nothing says nothing of what there was to compare
  have hskipped (actual : String) : verdictBlock turn.name actual none =
      "No output.txt file found for " ++ turn.name ++ ", won't compare output\n" := rfl
  obtain ⟨hafter, hend⟩ := turn.goes.of_running huse hanswer hcode
  rw [← hafter, ← (FileSystem.readsFixtures turn.after.files here _).expected.absent]
  rcases hend with ⟨failure, hexpected, hresult, htext⟩ |
    ⟨actual, expected, hexpected, hresult, htext⟩
  · rw [hexpected, htext]
    refine ⟨by simp [skipped, skips, hresult], iff_of_false (fun heq => ?_) (by simp)⟩
    have hempty := String.append_eq_left_iff.mp heq.symm
    simp at hempty
  · have hverdict : (compare actual expected).verdict = .skipped ↔ expected = none :=
      verdict_eq_skipped
    rw [hexpected, Except.ok.injEq, htext, ← hskipped actual, String.append_right_inj]
    refine ⟨by simp [skipped, skips, hresult, hverdict], fun hblock => ?_, fun hnone => ?_⟩
    · exact hverdict.mp (verdictBlock_inj hblock)
    · rw [hnone]

/-! ## §5 Verifications -/

/-- The turns of a verification that ended in a result and left a world: those of the examples of
the list, up to the first that failed. All uses of the tools and all of the report are theirs, and
the examples counted as skipped are those that were skipped in their turn. Each turn goes by the
fixtures of its example. -/
def TakesTurns (h : Harness σ) (names : List String) (w : World σ) (result : Except Failure Summary)
    (after : World σ) : Prop :=
  ∃ turns : List (h.Turn w.here), Turn.Lead w.stage turns after.stage ∧
    turns.map Turn.name <+: names ∧
    after.uses = w.uses ++ (turns.flatMap Turn.uses).map Use.event ∧
    after.sink.taken = w.sink.taken ++ turns.flatMap (fun turn => Utf8.encode turn.text) ∧
    (∀ counts, result = .ok counts →
      turns.map Turn.name = names ∧ counts.skipped = turns.countP Turn.skipped) ∧
    ∀ turn ∈ turns, turn.ByFixtures

theorem verify_takesTurns (h : Harness σ) (names : List String) (w : World σ)
    (hw : w.Unlimited) :
    h.TakesTurns names w ((h.verify names).perform w).1 ((h.verify names).perform w).2 := by
  rcases hrun : (h.verify names).perform w with ⟨result, after⟩
  obtain ⟨segments, text, ending, hcourses, hgained, rfl⟩ := h.verify_goes names hw hrun
  obtain ⟨turns, hlead, rfl, htext, hnames, hall⟩ := hcourses.turns
  refine ⟨turns, hlead, hnames, ?_, ?_, fun counts hcounts => ?_, fun turn _ => turn.byFixtures⟩
  · rw [hgained.uses, List.flatMap_def]
  · rw [hgained.sink, ← htext]
  · obtain ⟨comparisons, _ | failure⟩ := ending
    · obtain rfl : countsOf comparisons = counts := Except.ok.inj hcounts
      obtain ⟨hnames, hresults⟩ := hall rfl
      refine ⟨hnames, ?_⟩
      calc (countsOf comparisons).skipped
          = comparisons.countP (·.verdict = .skipped) := by
            rw [countsOf, foldl_record]
            exact Nat.zero_add _
        _ = (comparisons.map Except.ok).countP Turn.skips := by
            rw [List.countP_map]
            rfl
        _ = turns.countP Turn.skipped := by
            rw [← hresults, List.countP_map]
            rfl
    · cases hcounts

/-- Fixtures that cannot be read are never taken for absent ones: whatever the files are, a fixture
is read as absent exactly if its path ends where nothing is, and the turns of every verification go
by that. -/
theorem verify_byFixtures (h : Harness σ) (names : List String) (w : World σ) (hw : w.Unlimited) :
    (∀ fs here ex, FileSystem.ReadsFixtures fs here ex) ∧
      h.TakesTurns names w ((h.verify names).perform w).1 ((h.verify names).perform w).2 :=
  ⟨FileSystem.readsFixtures, h.verify_takesTurns names w hw⟩

end Harness

namespace Sample

/-- Two examples with an artifact each. The output expected of `a` is a link that leads to nothing;
the input of `b` is a directory. -/
def linkedFiles : FileSystem :=
  let directories := ((FileSystem.empty.putDirectories
    (place ["ex", "a", "bin", "Release", "net8.0"])).putDirectories
    (place ["ex", "b", "bin", "Release", "net8.0"])).putDirectories (place ["ex", "b", "input.txt"])
  ((directories.put (place ["ex", "a", "bin", "Release", "net8.0", "a.dll"]) (.file artifact)).put
    (place ["ex", "b", "bin", "Release", "net8.0", "b.dll"]) (.file artifact)).put
    (place ["ex", "a", "output.txt"]) (.link (Utf8.encode "../gone.txt"))

/-- The world that starts with them. -/
def linkedWorld : World Unit := { world with files := linkedFiles }

end Sample

namespace Harness

/-- Of these two examples the first is skipped, and the second fails with its input. -/
theorem verify_byFixtures_sample :
    Sample.linkedWorld.Unlimited ∧
    Sample.linkedFiles.Ends [] (Sample.harness.exampleOf "a").expectedFixture .missing ∧
    ((Sample.harness.verify ["a"]).perform Sample.linkedWorld).1 = .ok ⟨0, 0, 1⟩ ∧
    Sample.linkedFiles.Unreadable [] (Sample.harness.exampleOf "b").inputFixture
      (.system .isDirectory) ∧
    ((Sample.harness.verify ["a", "b"]).perform Sample.linkedWorld).1 =
      .error (.access ⟨"/ex/b/input.txt"⟩ (.system .isDirectory)) ∧
    Sample.harness.TakesTurns ["a", "b"] Sample.linkedWorld
      ((Sample.harness.verify ["a", "b"]).perform Sample.linkedWorld).1
      ((Sample.harness.verify ["a", "b"]).perform Sample.linkedWorld).2 := by
  have hgone : Sample.linkedFiles.found [] (Sample.harness.exampleOf "a").expectedFixture =
      .error (.system .noEntry) := by decide +kernel
  have hdirectory : Sample.linkedFiles.found [] (Sample.harness.exampleOf "b").inputFixture =
      .ok (Sample.place ["ex", "b", "input.txt"], .directory) := by decide +kernel
  exact ⟨rfl, (FileSystem.found_eq_noEntry.mp hgone).resolve_left (by decide), by decide +kernel,
    .directory (FileSystem.found_eq_directory.mp hdirectory), by decide +kernel,
    (verify_byFixtures Sample.harness ["a", "b"] Sample.linkedWorld rfl).2⟩

end Harness

end Exemplar
