/-
Exemplar.Proofs.Fixtures — the expected output affects verdicts only.

What an example's output is compared with is read after everything else was done for the example. So
two verifications that start with other fixtures, absent ones included, stay in step through all
examples: they use the tools in the same way, end with the same failure if there is one, and count
as many examples. Only how the examples are counted may differ.

  §1 file systems that differ at some locations
  §2 tools that do not see them
  §3 stages that differ in fixtures
  §4 an example in step
  §5 where a verification fails, and how many it counts
  §6 two verifications
  §7 another expected output
-/
import Exemplar.Proofs.Locality

namespace Exemplar

variable {σ : Type}

/-! ## §1 File systems that differ at some locations -/

namespace FileSystem

variable {V : Location → Prop} {fs fs' : FileSystem} {here : Location} {path : Path}

/-- Whether two file systems are the same, but for what stands at the locations in `V`. -/
structure SameOff (V : Location → Prop) (fs fs' : FileSystem) : Prop where
  time : fs.time = fs'.time
  node? : ∀ location, ¬ V location → fs.node? location = fs'.node? location

namespace SameOff

theorem ticked (h : SameOff V fs fs') : SameOff V fs.tick fs'.tick where
  time := congrArg (· + 1) h.time
  node? location hl := by rw [node?_tick, node?_tick, h.node? location hl]

/-- Whatever is put, both have it. -/
theorem put (h : SameOff V fs fs') (location : Location) (node : Node) :
    SameOff V (fs.put location node) (fs'.put location node) where
  time := h.time
  node? other hother := by
    cases other with
    | nil => rfl
    | cons name parent =>
      rw [node?_put _ _ _ (by simp), node?_put _ _ _ (by simp), h.node? _ hother]

end SameOff

/-- Whether nothing or a text stands at a location. -/
def Textual (fs : FileSystem) (location : Location) : Prop :=
  fs.node? location = none ∨
    ∃ file, fs.node? location = some (.file file) ∧ (Utf8.decode? file.data).isSome

theorem Textual.leaf {location : Location} (h : fs.Textual location) : fs.Leaf location :=
  h.imp id fun ⟨file, hfile, _⟩ => ⟨file, hfile⟩

theorem Textual.congr {location : Location} (h : fs.Textual location)
    (hsame : fs'.node? location = fs.node? location) : fs'.Textual location := by
  rwa [Textual, hsame]

/-- A fixture that may be absent is read where there is nothing, or a text. -/
theorem Textual.readOptional {location : Location} (h : fs.Textual location)
    (hresolve : fs.resolve here path = .ok (fs.placeAt location)) :
    ∃ text, fs.readOptional here path = .ok text := by
  have hread := read_at h.leaf hresolve
  unfold content at hread
  rcases h with hnone | ⟨file, hfile, hdecode⟩
  · rw [hnone] at hread
    exact ⟨none, by rw [FileSystem.readOptional, readText, hread]; rfl⟩
  · obtain ⟨text, hdecode⟩ := Option.isSome_iff_exists.mp hdecode
    rw [hfile] at hread
    refine ⟨some text, ?_⟩
    rw [FileSystem.readOptional, readText, hread]
    simp [Node.content, hdecode]

end FileSystem

/-! ## §2 Tools that do not see them -/

/-- Tools that neither depend on what stands at the locations in `V` nor change it, and make no
links. -/
structure Toolchain.Blind (tools : Toolchain σ) (V : Location → Prop) : Prop where
  answer : ∀ (a : σ) {fs fs' : FileSystem} (call : Call), fs.SameOff V fs' →
    (tools.execute a fs call).outcome = (tools.execute a fs' call).outcome ∧
      (tools.execute a fs call).state = (tools.execute a fs' call).state ∧
      (tools.execute a fs call).files.SameOff V (tools.execute a fs' call).files
  answerKeeps : ∀ (a : σ) (fs : FileSystem) (call : Call) (location : Location), V location →
    (tools.execute a fs call).files.node? location = fs.node? location
  answerLinkFree : ∀ (a : σ) (fs : FileSystem) (call : Call), fs.LinkFree →
    (tools.execute a fs call).files.LinkFree
  find : ∀ (a : σ) {fs fs' : FileSystem} (program : String), fs.SameOff V fs' →
    (tools.locate a fs program).1 = (tools.locate a fs' program).1 ∧
      (tools.locate a fs program).2.1 = (tools.locate a fs' program).2.1 ∧
      (tools.locate a fs program).2.2.SameOff V (tools.locate a fs' program).2.2
  findKeeps : ∀ (a : σ) (fs : FileSystem) (program : String) (location : Location), V location →
    (tools.locate a fs program).2.2.node? location = fs.node? location
  findLinkFree : ∀ (a : σ) (fs : FileSystem) (program : String), fs.LinkFree →
    (tools.locate a fs program).2.2.LinkFree

namespace Harness

variable {h : Harness σ} {here : Location} {name : String} {names : List String}
  {V : Location → Prop} {base base' : FileSystem} {s s' : Stage σ}

/-! ## §3 Stages that differ in fixtures -/

/-- Whether the locations in `V` are those of expected outputs: in both of two file systems the path
of a fixture leads there, and nothing stands there or a text. -/
def ExpectedAt (h : Harness σ) (here : Location) (names : List String) (V : Location → Prop)
    (base base' : FileSystem) : Prop :=
  ∀ location, V location → ∃ name ∈ names,
    (base.Receives here (h.exampleOf name).expectedFixture location ∧ base.Textual location) ∧
    (base'.Receives here (h.exampleOf name).expectedFixture location ∧ base'.Textual location)

/-- What follows for these locations from where they are. -/
structure Fixtures (h : Harness σ) (here : Location) (V : Location → Prop)
    (base base' : FileSystem) : Prop where
  place : ∀ location, V location → ∃ name, location = .text "output.txt" :: h.region here name
  way : ∀ location ∈ h.settings.root.trail here, ¬ V location
  textual : ∀ location, V location → base.Textual location ∧ base'.Textual location

theorem ExpectedAt.fixtures (hfixtures : h.ExpectedAt here names V base base')
    (hnames : ∀ name ∈ names, Path.isComponent name = true) (hlinks : base.LinkFree) :
    h.Fixtures here V base base' where
  place location hl := by
    obtain ⟨name, hname, ⟨hreceives, -⟩, -⟩ := hfixtures location hl
    refine ⟨name, (hreceives.place hlinks).trans ?_⟩
    exact place_in_directory (hnames name hname) (by decide)
  way location hl hV := by
    obtain ⟨name, hname, ⟨hreceives, -⟩, -⟩ := hfixtures location hV
    have hentered : location ∈ (h.exampleOf name).expectedFixture.approach here := by
      rw [Example.expectedFixture, approach_in_directory (hnames name hname) (by decide)]
      exact List.mem_append_left _ hl
    exact hreceives.leaf.ne_directory (hreceives.directory hlinks hentered)
  textual location hl := by
    obtain ⟨_, _, ⟨_, htextual⟩, _, htextual'⟩ := hfixtures location hl
    exact ⟨htextual, htextual'⟩

namespace Fixtures

variable (hfixtures : h.Fixtures here V base base')
include hfixtures

/-- A location that ends otherwise than in the name of an expected output is none of them. -/
theorem not_of_ne {last : String} {parent : Location} (hlast : last ≠ "output.txt") :
    ¬ V (.text last :: parent) := by
  intro hV
  obtain ⟨_, hplace⟩ := hfixtures.place _ hV
  exact hlast (Name.text.inj (List.cons.inj hplace).1)

/-- On the way to a file in the directory of an example there is none of them. -/
theorem approach (hname : Path.isComponent name = true) {file : String}
    (hfile : Path.isComponent file = true) :
    ∀ location ∈ ((h.exampleOf name).directory / file).approach here, ¬ V location := by
  intro location hl
  rw [approach_in_directory hname hfile, List.mem_append, List.mem_singleton] at hl
  rcases hl with hway | rfl
  · exact hfixtures.way location hway
  · intro hV
    obtain ⟨_, hplace⟩ := hfixtures.place _ hV
    have := congrArg List.length hplace
    simp [region] at this

/-- The path of any other file in the directory enters none of them. -/
theorem trail (hname : Path.isComponent name = true) {file : String}
    (hfile : Path.isComponent file = true) (hother : file ≠ "output.txt") :
    ∀ location ∈ ((h.exampleOf name).directory / file).trail here, ¬ V location := by
  intro location hl
  rw [Path.trail_join_component hfile, ← Path.approach_join hfile, List.mem_append,
    List.mem_singleton] at hl
  rcases hl with hentered | rfl
  · exact hfixtures.approach hname hfile location hentered
  · exact hfixtures.not_of_ne hother

end Fixtures

/-- Whether two stages are the same but for the locations in `V`, where they hold what two file
systems hold. -/
structure Varying (V : Location → Prop) (base base' : FileSystem) (s s' : Stage σ) : Prop where
  tools : s.tools = s'.tools
  same : s.files.SameOff V s'.files
  kept : ∀ location, V location → s.files.node? location = base.node? location ∧
    s'.files.node? location = base'.node? location
  linkFree : s.files.LinkFree

namespace Varying

variable (hs : Varying V base base' s s')
include hs

theorem ticked : Varying V base base' s.ticked s'.ticked where
  tools := hs.tools
  same := hs.same.ticked
  kept location hl := by
    show s.files.tick.node? location = _ ∧ s'.files.tick.node? location = _
    rw [FileSystem.node?_tick, FileSystem.node?_tick]
    exact hs.kept location hl
  linkFree := FileSystem.linkFree_tick.mpr hs.linkFree

/-- Tools that do not see the locations answer the same. -/
theorem answer (hblind : h.tools.Blind V) (call : Call) :
    (s.answer h.tools call).outcome = (s'.answer h.tools call).outcome ∧
      Varying V base base' (s.answer h.tools call).stage (s'.answer h.tools call).stage := by
  obtain ⟨houtcome, hstate, hsame⟩ := hblind.answer s.tools call hs.same
  unfold Stage.answer
  rw [← hs.tools]
  refine ⟨houtcome, hstate, hsame, fun location hl => ⟨?_, ?_⟩,
    hblind.answerLinkFree _ _ _ hs.linkFree⟩
  · exact (hblind.answerKeeps _ _ _ _ hl).trans (hs.kept location hl).1
  · exact (hblind.answerKeeps _ _ _ _ hl).trans (hs.kept location hl).2

/-- They find the same. -/
theorem find (hblind : h.tools.Blind V) (program : String) :
    (s.find h.tools program).1 = (s'.find h.tools program).1 ∧
      Varying V base base' (s.find h.tools program).2 (s'.find h.tools program).2 := by
  obtain ⟨hpath, hstate, hsame⟩ := hblind.find s.tools program hs.same
  unfold Stage.find
  rw [← hs.tools]
  refine ⟨hpath, hstate, hsame, fun location hl => ⟨?_, ?_⟩,
    hblind.findLinkFree _ _ _ hs.linkFree⟩
  · exact (hblind.findKeeps _ _ _ _ hl).trans (hs.kept location hl).1
  · exact (hblind.findKeeps _ _ _ _ hl).trans (hs.kept location hl).2

/-- A location holds the same, or nothing or a text in both. -/
theorem cases (hfixtures : h.Fixtures here V base base') (location : Location) :
    s.files.node? location = s'.files.node? location ∨
      (s.files.Textual location ∧ s'.files.Textual location) := by
  by_cases hl : V location
  · exact Or.inr ⟨(hfixtures.textual location hl).1.congr (hs.kept location hl).1,
      (hfixtures.textual location hl).2.congr (hs.kept location hl).2⟩
  · exact Or.inl (hs.same.node? location hl)

theorem leafwise (hfixtures : h.Fixtures here V base base') (P : Location → Prop) :
    FileSystem.LeafwiseOn P s.files s'.files :=
  fun location _ => (hs.cases hfixtures location).imp id fun ⟨htext, htext'⟩ =>
    ⟨htext.leaf, htext'.leaf⟩

/-- Whether the artifact of an example is there does not depend on any expected output. -/
theorem artifact (hfixtures : h.Fixtures here V base base')
    (hname : Path.isComponent name = true) :
    (s.files.file? here (h.exampleOf name).artifact).isSome =
      (s'.files.file? here (h.exampleOf name).artifact).isSome := by
  refine FileSystem.file?_leafwise hs.linkFree (hs.leafwise hfixtures _) ?_
  obtain ⟨parent, hplace⟩ := artifact_place (h := h) here hname
  rw [hplace, hs.same.node? _ (hfixtures.not_of_ne ?_)]
  intro heq
  have := congrArg (·.toList.getLast?) heq
  simp at this

/-- The path of another file than an expected output enters the same. -/
theorem trail (hfixtures : h.Fixtures here V base base') (hname : Path.isComponent name = true)
    {file : String} (hfile : Path.isComponent file = true) (hother : file ≠ "output.txt") :
    ∀ location ∈ ((h.exampleOf name).directory / file).trail here,
      s.files.node? location = s'.files.node? location :=
  fun location hl =>
    hs.same.node? location (hfixtures.trail hname hfile hother location hl)

/-- The script is written the same. -/
theorem write (hfixtures : h.Fixtures here V base base') (hname : Path.isComponent name = true)
    (data : Bytes) :
    (∃ cause, s.files.write here (h.exampleOf name).script data = .error cause ∧
      s'.files.write here (h.exampleOf name).script data = .error cause) ∨
    ∃ files files', s.files.write here (h.exampleOf name).script data = .ok files ∧
      s'.files.write here (h.exampleOf name).script data = .ok files' ∧
      Varying V base base' ⟨s.tools, files⟩ ⟨s'.tools, files'⟩ := by
  have hlua : name ++ ".lua" ≠ "output.txt" := (ne_script (by decide)).symm
  have hunseen : ¬ V ((h.exampleOf name).script.place here) := by
    rw [script_place hname]
    exact hfixtures.not_of_ne hlua
  rcases FileSystem.write_congr hs.linkFree
    (hs.trail hfixtures hname (script_component hname) hlua) hs.same.time data with
    hfail | ⟨file, hwrite, hwrite'⟩
  · exact Or.inl hfail
  · refine Or.inr ⟨_, _, hwrite, hwrite', hs.tools, hs.same.put _ _, fun location hl => ?_,
      FileSystem.linkFree_put hs.linkFree _ (by simp)⟩
    have hne : location ≠ (h.exampleOf name).script.place here := by
      rintro rfl
      exact hunseen hl
    obtain ⟨hkept, hkept'⟩ := hs.kept location hl
    exact ⟨(FileSystem.node?_put_of_ne hne).trans hkept,
      (FileSystem.node?_put_of_ne hne).trans hkept'⟩

/-- The input is read the same. -/
theorem input (hfixtures : h.Fixtures here V base base') (hname : Path.isComponent name = true) :
    s.files.input here (h.exampleOf name) = s'.files.input here (h.exampleOf name) := by
  have hresolve := FileSystem.resolve_congr .find hs.linkFree
    (hs.trail hfixtures hname (by decide : Path.isComponent "input.txt" = true) (by decide))
  unfold FileSystem.input FileSystem.readOptional FileSystem.readText
  rw [Example.inputFixture, FileSystem.read_of_resolve hresolve]

/-- The expected output is read in both, or fails to be in the same way. -/
theorem expected (hfixtures : h.Fixtures here V base base')
    (hname : Path.isComponent name = true) :
    (∃ failure, s.files.expected here (h.exampleOf name) = .error failure ∧
      s'.files.expected here (h.exampleOf name) = .error failure) ∨
    ∃ text text', s.files.expected here (h.exampleOf name) = .ok text ∧
      s'.files.expected here (h.exampleOf name) = .ok text' := by
  have hequal (hresolve : s.files.resolve here (h.exampleOf name).expectedFixture =
      s'.files.resolve here (h.exampleOf name).expectedFixture) :
      s.files.expected here (h.exampleOf name) = s'.files.expected here (h.exampleOf name) := by
    unfold FileSystem.expected FileSystem.readOptional FileSystem.readText
    rw [FileSystem.read_of_resolve hresolve]
  have hboth (hsame : s.files.expected here (h.exampleOf name) =
      s'.files.expected here (h.exampleOf name)) :
      (∃ failure, s.files.expected here (h.exampleOf name) = .error failure ∧
        s'.files.expected here (h.exampleOf name) = .error failure) ∨
      ∃ text text', s.files.expected here (h.exampleOf name) = .ok text ∧
        s'.files.expected here (h.exampleOf name) = .ok text' := by
    rw [← hsame]
    cases s.files.expected here (h.exampleOf name) with
    | error failure => exact Or.inl ⟨failure, rfl, rfl⟩
    | ok text => exact Or.inr ⟨text, text, rfl, rfl⟩
  rcases FileSystem.resolve_leafwise .find hs.linkFree (hs.leafwise hfixtures _) with
    hsame | ⟨-, -, -, hends, hends'⟩ | ⟨⟨location, hmem, hclash⟩, -⟩
  · exact hboth (hequal hsame)
  · rcases hs.cases hfixtures _ with hsame | ⟨htextual, htextual'⟩
    · refine hboth (hequal ?_)
      rw [hends, hends', FileSystem.placeAt, FileSystem.placeAt, hsame]
    · obtain ⟨text, hread⟩ := htextual.readOptional hends
      obtain ⟨text', hread'⟩ := htextual'.readOptional hends'
      exact Or.inr ⟨text, text', hread, hread'⟩
  · have hsame := hs.same.node? location (hfixtures.approach hname (by decide) location hmem)
    exact absurd (congrArg Option.isSome hsame) hclash

end Varying

/-! ## §4 An example in step -/

/-- An example stays in step where only expected outputs differ. -/
theorem Fixtures.inStep (hfixtures : h.Fixtures here V base base') (hblind : h.tools.Blind V)
    (hname : Path.isComponent name = true) :
    h.InStep here name (Varying V base base') (Varying V base base') fun _ _ => True where
  built hs := (hs.ticked.answer hblind _).2
  artifact hs := hs.artifact hfixtures hname
  compiled hs _ := hs.answer hblind _
  written data hs := hs.write hfixtures hname data
  found hs := hs.find hblind _
  input hs := hs.input hfixtures hname
  ran _ _ hs := hs.answer hblind _
  expected hs := (hs.expected hfixtures hname).imp id fun ⟨text, text', hread, hread'⟩ =>
    ⟨text, text', hread, hread', trivial⟩
  weaken hs := hs

/-! ## §5 Where a verification fails, and how many it counts -/

/-- Whether a verification fails at an example: those before it are verified without failure, and
from where they end the example fails. -/
def FailsAt (h : Harness σ) (w : World σ) (done : List String) (name : String)
    (failure : Failure) : Prop :=
  ∃ counts m, (h.verify done).perform w = (.ok counts, m) ∧
    ((h.verifyOne name).perform m).1 = .error failure

theorem failsAt {w : World σ} (hw : w.Unlimited) {done : List String}
    {segments : List (List (Use σ))} {uses : List (Use σ)} {text line : String}
    {ending : List Comparison × Option Failure} {m t : Stage σ} {failure : Failure}
    (hdone : h.Courses w.here done w.stage segments text ending m) (hend : ending.2 = none)
    (hcut : h.Course w.here name m uses line (.error failure) t) :
    h.FailsAt w done name failure := by
  obtain ⟨after, hrun, rfl, hgained⟩ := hdone.performs hw
  rw [← hgained.here] at hcut
  obtain ⟨_, hfails, -, -⟩ := hcut.performs (hgained.unlimited hw)
  obtain ⟨comparisons, _ | _⟩ := ending
  · exact ⟨countsOf comparisons, after, hrun, by rw [hfails]; rfl⟩
  · cases hend

/-- Two verifications in step fail at the same example. -/
theorem failsAt_both {w w' : World σ} {R : Stage σ → Stage σ → Prop}
    {Fixture : Option String → Option String → Prop} (hw : w.Unlimited) (hw' : w'.Unlimited)
    (hhere : w'.here = w.here) (hstep : ∀ name ∈ names, h.InStep w.here name R R Fixture)
    (hstart : R w.stage w'.stage) {segments : List (List (Use σ))} {text : String}
    {ending : List Comparison × Option Failure} {t : Stage σ} {failure : Failure}
    (hcourses : h.Courses w.here names w.stage segments text ending t)
    (hend : ending.2 = some failure) :
    ∃ done name rest, names = done ++ name :: rest ∧ h.FailsAt w done name failure ∧
      h.FailsAt w' done name failure := by
  obtain ⟨done, name, rest, _, _, _, _, _, m, rfl, -, -, hdone, hcut⟩ := hcourses.cut hend
  refine ⟨done, name, rest, rfl, failsAt hw hdone rfl hcut, ?_⟩
  -- the examples before it and then the example itself go the same way in the other one
  obtain ⟨_, _, _, m', hdone', -, hm, hnone⟩ := hdone.inStep_same
    (fun other hother => hstep other (List.mem_append_left _ hother)) hstart
  obtain ⟨_, _, r', _, hcut', -, -, hends⟩ := hcut.inStep (hstep name (by simp)) hm
  rcases hends with ⟨_, hr, rfl, -⟩ | ⟨_, _, _, -, -, hr, -⟩
  · obtain rfl := Except.error.inj hr
    rw [← hhere] at hdone' hcut'
    exact failsAt hw' hdone' hnone hcut'
  · cases hr

/-- Each comparison is counted once. -/
theorem total_countsOf (comparisons : List Comparison) :
    (countsOf comparisons).total = comparisons.length := by
  have hfrom : ∀ counts : Summary,
      (comparisons.foldl (fun counts comparison => counts.record comparison.verdict) counts).total =
        counts.total + comparisons.length := by
    induction comparisons with
    | nil =>
      intro counts
      rfl
    | cons comparison comparisons ih =>
      intro counts
      rw [List.foldl_cons, ih]
      cases hverdict : comparison.verdict <;> simp [Summary.record, Summary.total] <;> omega
  rw [countsOf, hfrom]
  simp [Summary.total]

/-- If none of them fails, each example is compared once, and counted. -/
theorem Courses.total {segments : List (List (Use σ))} {text : String}
    {ending : List Comparison × Option Failure} {t : Stage σ}
    (hcourses : h.Courses here names s segments text ending t) (hend : ending.2 = none) :
    (countsOf ending.1).total = names.length := by
  rw [total_countsOf]
  induction hcourses with
  | done => rfl
  | stop _ => cases hend
  | next _ _ ih => simpa using ih hend

/-! ## §6 Two verifications -/

/-- What the expected outputs are affects no more than verdicts: two verifications that start with
other expected outputs make the same uses of the tools and leave everything else the same, and both
count all examples or both fail at the same one and in the same way. -/
theorem verify_fixtures (h : Harness σ) (w : World σ) (files' : FileSystem) (names : List String)
    (V : Location → Prop) (hw : w.Unlimited) (hlinks : w.files.LinkFree)
    (hnames : ∀ name ∈ names, Path.isComponent name = true) (hblind : h.tools.Blind V)
    (hfiles : w.files.SameOff V files') (hexpected : h.ExpectedAt w.here names V w.files files') :
    let w' := { w with files := files' }
    let one := (h.verify names).perform w
    let other := (h.verify names).perform w'
    one.2.uses = other.2.uses ∧
    Varying V w.files files' one.2.stage other.2.stage ∧
    ((∃ counts counts', one.1 = .ok counts ∧ other.1 = .ok counts' ∧
        counts.total = names.length ∧ counts'.total = names.length) ∨
      ∃ failure done name rest, names = done ++ name :: rest ∧
        one.1 = .error failure ∧ other.1 = .error failure ∧
        h.FailsAt w done name failure ∧ h.FailsAt w' done name failure) := by
  intro w' one other
  have hfixtures := hexpected.fixtures hnames hlinks
  have hstep (name : String) (hname : name ∈ names) :=
    hfixtures.inStep hblind (hnames name hname)
  have hstart : Varying V w.files files' w.stage w'.stage :=
    ⟨rfl, hfiles, fun _ _ => ⟨rfl, rfl⟩, hlinks⟩
  rcases hone : one with ⟨result, after⟩
  obtain ⟨segments, text, ending, hcourses, hgained, rfl⟩ := h.verify_goes names hw hone
  obtain ⟨segments', text', ending', t', hcourses', hevents, ht, hfailure⟩ :=
    hcourses.inStep_same hstep hstart
  obtain ⟨after', hother, rfl, hgained'⟩ := hcourses'.performs (w := w') hw
  rw [show other = _ from hother]
  refine ⟨?_, ht, ?_⟩
  · show after.uses = after'.uses
    rw [hgained.uses, hgained'.uses, hevents]
    rfl
  obtain ⟨comparisons, _⟩ := ending
  obtain ⟨comparisons', failure?⟩ := ending'
  obtain rfl : failure? = _ := hfailure
  cases failure? with
  | none => exact Or.inl ⟨_, _, rfl, rfl, hcourses.total rfl, hcourses'.total rfl⟩
  | some failure =>
    obtain ⟨done, name, rest, hcut, hfails, hfails'⟩ :=
      failsAt_both hw (show w'.Unlimited from hw) rfl hstep hstart hcourses rfl
    exact Or.inr ⟨failure, done, name, rest, hcut, rfl, rfl, hfails, hfails'⟩

end Harness

/-! ## §7 Another expected output -/

namespace Sample

/-- Where the output that example `a` should have is written down. -/
def expectedPlace : Location := place ["ex", "a", "output.txt"]

/-- The small world with another output expected. -/
def otherFiles : FileSystem :=
  files.put expectedPlace (.file { data := Utf8.encode "4", stamp := .old })

theorem tools_blind (V : Location → Prop) : tools.Blind V where
  answer _ _ _ _ hsame := ⟨rfl, rfl, hsame⟩
  answerKeeps _ _ _ _ _ := rfl
  answerLinkFree _ _ _ hlinks := hlinks
  find _ _ _ _ hsame := ⟨rfl, rfl, hsame⟩
  findKeeps _ _ _ _ _ := rfl
  findLinkFree _ _ _ hlinks := hlinks

theorem expectedAt_otherFiles :
    harness.ExpectedAt [] ["a"] (· = expectedPlace) files otherFiles := by
  rintro location rfl
  refine ⟨"a", List.mem_cons_self, ⟨Or.inr ⟨{ data := Utf8.encode "3", stamp := .old }, ?_⟩, ?_⟩,
    Or.inr ⟨{ data := Utf8.encode "4", stamp := .old }, ?_⟩, ?_⟩
  · decide +kernel
  · exact Or.inr ⟨{ data := Utf8.encode "3", stamp := .old }, by decide +kernel, by decide +kernel⟩
  · decide +kernel
  · exact Or.inr ⟨{ data := Utf8.encode "4", stamp := .old }, by decide +kernel, by decide +kernel⟩

end Sample

namespace Harness

/-- In the small world the example matches what is expected of it, and does not when something else
is; the tools are used the same. -/
theorem verify_fixtures_sample :
    ((Sample.harness.verify ["a"]).perform Sample.world).1 = .ok ⟨1, 0, 0⟩ ∧
    ((Sample.harness.verify ["a"]).perform
      { Sample.world with files := Sample.otherFiles }).1 = .ok ⟨0, 1, 0⟩ ∧
    ((Sample.harness.verify ["a"]).perform Sample.world).2.uses =
      ((Sample.harness.verify ["a"]).perform
        { Sample.world with files := Sample.otherFiles }).2.uses := by
  obtain ⟨huses, -, -⟩ := verify_fixtures Sample.harness Sample.world Sample.otherFiles ["a"]
    (· = Sample.expectedPlace) rfl Sample.linkFree_files (by decide) (Sample.tools_blind _)
    ⟨rfl, fun location hl => (FileSystem.node?_put_of_ne hl).symm⟩ Sample.expectedAt_otherFiles
  exact ⟨by decide +kernel, by decide +kernel, huses⟩

end Harness

end Exemplar
