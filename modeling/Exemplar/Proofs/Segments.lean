/-
Exemplar.Proofs.Segments — which uses of the tools a verification makes, and in which order.

The uses of a verification are those of its examples, one example after the other. An example that
gets to its end makes four: it is built, its artifact is compiled, the runtime is looked for, and
the script is run. One that fails stops within these four, and the number it got to says which
failures it can have ended with. The runtime may be found at a path that is not UTF-8, but it is
called by a text: that is the path if it can be, and the path with U+FFFD in it if it cannot.

  §1 whole and cut segments
  §2 one example
  §3 a list of examples
-/
import Exemplar.Proofs.Course
import Exemplar.Proofs.Lossy

namespace Exemplar.Harness

variable {σ : Type} (h : Harness σ) (here : Location) (name : String)

/-! ## §1 Whole and cut segments -/

/-- The four uses of the tools for an example, when the runtime is found at the path `program` and
the script is given `input`. The runtime is called by the text of its path, with U+FFFD for each
piece of it that is not UTF-8. -/
def segment (program : Bytes) (input : String) : List Event :=
  [.call ⟨h.settings.buildTool.program, h.settings.buildTool.args ++
      ["-c", h.settings.profile, (h.exampleOf name).directory.text], none⟩,
    .call ⟨h.settings.compiler.program, h.settings.compiler.args ++
      [(h.exampleOf name).artifact.text], none⟩,
    .locate h.settings.runtime.program,
    .call ⟨Utf8.decodeLossy program, h.settings.runtime.args ++ [(h.exampleOf name).script.text],
      some (Utf8.encode input)⟩]

/-- The runtime is called by the very path that it was found at just if that path is UTF-8. -/
theorem encode_runCall_program (ex : Example) (program : Bytes) (input : String) :
    Utf8.encode (h.runCall ex program input).program = program ↔ Utf8.IsText program :=
  Utf8.encode_decodeLossy_eq

/-- The uses of an example that gets to its end, from one stage to another. The compiler and the
runtime both end with the code zero. The search comes after the script was written, the runtime is
called by the path that was found, unless that is not UTF-8, and the input is what the fixture holds
after the search, or nothing if there is none. -/
def WholeSegment (s : Stage σ) (uses : List (Use σ)) (t : Stage σ) : Prop :=
  ∃ (written : Stage σ) (program : Bytes) (input : String) (compiled ran : Outcome),
    let build := h.building (h.exampleOf name) s
    let compile := h.compiling (h.exampleOf name) build.after
    let search := h.searching written
    let run := h.running (h.exampleOf name) search.after program input
    uses = [build, compile, search, run] ∧
    uses.map Use.event = h.segment name program input ∧
    (build.after.answer h.tools (h.compileCall (h.exampleOf name))).outcome = .ok compiled ∧
    compiled.code = some 0 ∧
    compile.after.files.write here (h.exampleOf name).script (Utf8.encode compiled.stdout) =
      .ok written.files ∧
    written.tools = compile.after.tools ∧
    (written.find h.tools h.settings.runtime.program).1 = some program ∧
    (Utf8.IsText program →
      Utf8.encode (h.runCall (h.exampleOf name) program input).program = program) ∧
    search.after.files.input here (h.exampleOf name) = .ok input ∧
    (search.after.answer h.tools (h.runCall (h.exampleOf name) program input)).outcome = .ok ran ∧
    ran.code = some 0 ∧
    t = run.after

/-- Whole segments of some examples, each from the stage that the one before it left. -/
inductive WholeSegments :
    List String → Stage σ → List (List (Use σ)) → Stage σ → Prop
  | nil {s : Stage σ} : WholeSegments [] s [] s
  | cons {name : String} {names : List String} {s t u : Stage σ} {uses : List (Use σ)}
      {segments : List (List (Use σ))} (hwhole : h.WholeSegment here name s uses t)
      (hrest : WholeSegments names t segments u) :
      WholeSegments (name :: names) s (uses :: segments) u

/-- The failures with which an example can end after so many uses of the tools. -/
def EndsAfter : Nat → Failure → Prop
  | 1, failure => failure = .missingArtifact name (h.exampleOf name).artifact
  | 2, failure =>
    (∃ cause, failure = .spawn h.settings.compiler.program cause) ∨
    (∃ code stderr, code ≠ some 0 ∧ failure = .compiler name code stderr) ∨
    ∃ cause, failure = .access (h.exampleOf name).script cause
  | 3, failure =>
    failure = .runtimeUnavailable h.settings.runtime.program ∨
    ∃ cause, failure = .access (h.exampleOf name).inputFixture cause
  | 4, failure =>
    (∃ (program : Bytes) (cause : Cause), failure = .spawn (Utf8.decodeLossy program) cause) ∨
    (∃ code stderr, code ≠ some 0 ∧ failure = .runtime name code stderr) ∨
    ∃ cause, failure = .access (h.exampleOf name).expectedFixture cause
  | _, _ => False

/-- The uses of an example that fails: a part of a segment from its start, never empty, whose length
goes with the failure. -/
structure CutSegment (uses : List (Use σ)) (failure : Failure) : Prop where
  nonempty : uses ≠ []
  isPrefix : ∃ program input, uses.map Use.event <+: h.segment name program input
  ends : h.EndsAfter name uses.length failure

/-! ## §2 One example -/

end Exemplar.Harness

namespace Exemplar.FileSystem

/-- A fixture that cannot be read is a failure that names it. -/
theorem readOptional_error {fs : FileSystem} {here : Location} {path : Path} {failure : Failure}
    (h : fs.readOptional here path = .error failure) : ∃ cause, failure = .access path cause := by
  unfold readOptional at h
  split at h
  · cases h
  · rename_i cause _
    split at h
    · cases h
    · exact ⟨cause, (Except.error.inj h).symm⟩

theorem input_error {fs : FileSystem} {here : Location} {ex : Example} {failure : Failure}
    (h : fs.input here ex = .error failure) : ∃ cause, failure = .access ex.inputFixture cause := by
  unfold input at h
  split at h
  · cases h
  · rename_i failure' hread
    obtain rfl := Except.error.inj h
    exact readOptional_error hread

end Exemplar.FileSystem

namespace Exemplar.Harness

variable {σ : Type} {h : Harness σ} {here : Location} {name : String}
  {s t : Stage σ} {uses : List (Use σ)} {text : String}

/-- A compilation that does not fail makes its call. -/
theorem Compiles.uses_of_ok {ex : Example} {script : String}
    (hcompile : h.Compiles here ex s uses (.ok script) t) : uses = [h.compiling ex s] := by
  cases hcompile
  rfl

/-- An example that ends in a comparison makes all four uses. -/
theorem Course.wholeSegment {comparison : Comparison}
    (hcourse : h.Course here name s uses text (.ok comparison) t) :
    h.WholeSegment here name s uses t := by
  cases hcourse with
  | compared hcompile hrun _ =>
    cases hcompile with
    | written _ hcompiled hcode hwrite =>
      cases hrun with
      | finished hfind hinput hran hcode' =>
        exact ⟨_, _, _, _, _, rfl, rfl, hcompiled, hcode, hwrite, rfl, hfind,
          (h.encode_runCall_program _ _ _).mpr, hinput, hran, hcode', rfl⟩

/-- An example that fails while it is compiled makes one use or two. -/
theorem Compiles.cutSegment {failure : Failure}
    (hcompile : h.Compiles here (h.exampleOf name) (h.building (h.exampleOf name) s).after uses
      (.error failure) t) :
    h.CutSegment name (h.building (h.exampleOf name) s :: uses) failure := by
  cases hcompile with
  | missing _ => exact ⟨by simp, ⟨[], "", ⟨_, rfl⟩⟩, rfl⟩
  | unstarted _ _ => exact ⟨by simp, ⟨[], "", ⟨_, rfl⟩⟩, Or.inl ⟨_, rfl⟩⟩
  | failed _ _ hcode => exact ⟨by simp, ⟨[], "", ⟨_, rfl⟩⟩, Or.inr (Or.inl ⟨_, _, hcode, rfl⟩)⟩
  | unwritable _ _ _ _ => exact ⟨by simp, ⟨[], "", ⟨_, rfl⟩⟩, Or.inr (Or.inr ⟨_, rfl⟩)⟩

/-- An example that fails while its script is run makes three uses or four. -/
theorem Runs.cutSegment {failure : Failure} {b : Stage σ}
    (hrun : h.Runs here (h.exampleOf name) s uses (.error failure) t) :
    h.CutSegment name (h.building (h.exampleOf name) b ::
      [h.compiling (h.exampleOf name) (h.building (h.exampleOf name) b).after] ++ uses)
      failure := by
  cases hrun with
  | unavailable _ => exact ⟨by simp, ⟨[], "", ⟨_, rfl⟩⟩, Or.inl rfl⟩
  | @unread program _ _ hinput =>
    exact ⟨by simp, ⟨program, "", ⟨_, rfl⟩⟩, Or.inr (FileSystem.input_error hinput)⟩
  | @unstarted program input _ _ _ _ =>
    exact ⟨by simp, ⟨program, input, ⟨_, rfl⟩⟩, Or.inl ⟨_, _, rfl⟩⟩
  | @failed program input _ _ _ _ hcode =>
    exact ⟨by simp, ⟨program, input, ⟨_, rfl⟩⟩, Or.inr (Or.inl ⟨_, _, hcode, rfl⟩)⟩

/-- An example that fails makes a part of the four uses, from the first on. -/
theorem Course.cutSegment {failure : Failure}
    (hcourse : h.Course here name s uses text (.error failure) t) :
    h.CutSegment name uses failure := by
  cases hcourse with
  | uncompiled hcompile => exact hcompile.cutSegment
  | unrun hcompile hrun =>
    obtain rfl := hcompile.uses_of_ok
    exact hrun.cutSegment
  | uncompared hcompile hrun hexpected =>
    obtain rfl := hcompile.uses_of_ok
    cases hrun with
    | @finished program input _ _ _ _ _ =>
      exact ⟨by simp, ⟨program, input, ⟨_, rfl⟩⟩,
        Or.inr (Or.inr (FileSystem.readOptional_error hexpected))⟩

/-! ## §3 A list of examples -/

/-- A list of examples none of which fails makes whole segments only. -/
theorem Courses.wholeSegments {names : List String} {segments : List (List (Use σ))}
    {ending : List Comparison × Option Failure}
    (hcourses : h.Courses here names s segments text ending t) (hend : ending.2 = none) :
    h.WholeSegments here names s segments t := by
  induction hcourses with
  | done => exact .nil
  | stop _ => cases hend
  | next hcourse _ ih => exact .cons hcourse.wholeSegment (ih hend)

/-- The uses of a verification that ended in a result and left a world: they are the segments of the
examples, in the order of the list. If it succeeded, every example has its whole segment. If it
failed, the examples before some `name` have theirs, `name` has a part of its segment, by the rules
of an example and with the failure that ended the verification, and no example after it has
anything. -/
def Segmented (h : Harness σ) (names : List String) (w : World σ) (result : Except Failure Summary)
    (after : World σ) : Prop :=
  ∃ whole : List (List (Use σ)),
    match result with
    | .ok _ =>
      h.WholeSegments w.here names w.stage whole after.stage ∧
      after.uses = w.uses ++ whole.flatten.map Use.event
    | .error failure =>
      ∃ done name rest cut m, names = done ++ name :: rest ∧
        h.WholeSegments w.here done w.stage whole m ∧
        h.CutSegment name cut failure ∧
        (∃ text, h.Course w.here name m cut text (.error failure) after.stage) ∧
        after.uses = w.uses ++ (whole.flatten ++ cut).map Use.event

/-- The uses of the tools in a verification are the segments of its examples, up to the first that
fails. -/
theorem verify_segmented (h : Harness σ) (names : List String) (w : World σ) (hw : w.Unlimited) :
    h.Segmented names w ((h.verify names).perform w).1 ((h.verify names).perform w).2 := by
  have hrun : (h.verifyFrom {} names).perform w =
    (((h.verify names).perform w).1, ((h.verify names).perform w).2) := rfl
  obtain ⟨segments, text, comparisons, failure?, hcourses, hgained, hresult⟩ :=
    h.verifyFrom_goes names {} hw hrun
  rw [hresult]
  cases failure? with
  | none => exact ⟨segments, hcourses.wholeSegments rfl, hgained.uses⟩
  | some failure =>
    obtain ⟨done, name, rest, whole, cut, _, line, _, m, rfl, rfl, -, hdone, hcut⟩ :=
      hcourses.cut rfl
    refine ⟨whole, done, name, rest, cut, m, rfl, hdone.wholeSegments rfl, hcut.cutSegment,
      ⟨line, hcut⟩, ?_⟩
    simpa using hgained.uses

end Exemplar.Harness

namespace Exemplar.Sample

/-- The harness of the small world with a runtime whose path ends in a byte that is not UTF-8. -/
def strayHarness : Harness Unit :=
  { harness with
    tools := { tools with locate := fun _ files program =>
      (some (Utf8.encode ("/bin/" ++ program) ++ [0xFF]), (), files) } }

end Exemplar.Sample

namespace Exemplar.Harness

/-- In the small world the first example has its whole segment, in which the runtime is called by
the text of its path, and the second one fails for want of an artifact. -/
theorem verify_segmented_sample :
    Sample.world.Unlimited ∧
    ((Sample.strayHarness.verify ["a", "b"]).perform Sample.world).1 =
      .error (.missingArtifact "b" ⟨"/ex/b/bin/Release/net8.0/b.dll"⟩) ∧
    ((Sample.strayHarness.verify ["a", "b"]).perform Sample.world).2.uses[3]? =
      some (.call ⟨"/bin/lune\uFFFD", ["run", "/ex/a/a.lua"], some []⟩) ∧
    Sample.strayHarness.Segmented ["a", "b"] Sample.world
      ((Sample.strayHarness.verify ["a", "b"]).perform Sample.world).1
      ((Sample.strayHarness.verify ["a", "b"]).perform Sample.world).2 :=
  ⟨rfl, by decide +kernel, by decide +kernel,
    verify_segmented Sample.strayHarness ["a", "b"] Sample.world rfl⟩

end Exemplar.Harness
