/-
Exemplar.Proofs.Lockstep — two verifications in step.

Two verifications of the same examples may start on different stages. They stay in step if each
single thing that an example does comes to the same on both stages and leaves stages that are
related as before: this module lists those things, and derives from them that the whole of an
example goes the same way twice, and a list of examples too. The stages may be related in one way
before the script is written and in another way after that, and the fixtures may differ where no
more than verdicts depend on them.

  §1 what keeps an example in step
  §2 an example in step
  §3 a list of examples in step
-/
import Exemplar.Proofs.Course

namespace Exemplar.Harness

variable {σ : Type}

/-! ## §1 What keeps an example in step -/

/-- What keeps an example in step on two stages that are related by `Before` until the script is
written and by `After` from then on. What the expected output is read as may differ by
`Fixture`. -/
structure InStep (h : Harness σ) (here : Location) (name : String)
    (Before After : Stage σ → Stage σ → Prop) (Fixture : Option String → Option String → Prop) :
    Prop where
  built : ∀ {s s' : Stage σ}, Before s s' →
    Before (h.building (h.exampleOf name) s).after (h.building (h.exampleOf name) s').after
  artifact : ∀ {s s' : Stage σ}, Before s s' →
    (s.files.file? here (h.exampleOf name).artifact).isSome =
      (s'.files.file? here (h.exampleOf name).artifact).isSome
  compiled : ∀ {s s' : Stage σ}, Before s s' →
    (s.files.file? here (h.exampleOf name).artifact).isSome →
    (s.answer h.tools (h.compileCall (h.exampleOf name))).outcome =
        (s'.answer h.tools (h.compileCall (h.exampleOf name))).outcome ∧
      Before (h.compiling (h.exampleOf name) s).after (h.compiling (h.exampleOf name) s').after
  written : ∀ {s s' : Stage σ} (data : Bytes), Before s s' →
    (∃ cause, s.files.write here (h.exampleOf name).script data = .error cause ∧
      s'.files.write here (h.exampleOf name).script data = .error cause) ∨
    ∃ files files', s.files.write here (h.exampleOf name).script data = .ok files ∧
      s'.files.write here (h.exampleOf name).script data = .ok files' ∧
      After ⟨s.tools, files⟩ ⟨s'.tools, files'⟩
  found : ∀ {s s' : Stage σ}, After s s' →
    (s.find h.tools h.settings.runtime.program).1 =
        (s'.find h.tools h.settings.runtime.program).1 ∧
      After (h.searching s).after (h.searching s').after
  input : ∀ {s s' : Stage σ}, After s s' →
    s.files.input here (h.exampleOf name) = s'.files.input here (h.exampleOf name)
  ran : ∀ {s s' : Stage σ} (program : Bytes) (input : String), After s s' →
    (s.answer h.tools (h.runCall (h.exampleOf name) program input)).outcome =
        (s'.answer h.tools (h.runCall (h.exampleOf name) program input)).outcome ∧
      After (h.running (h.exampleOf name) s program input).after
        (h.running (h.exampleOf name) s' program input).after
  expected : ∀ {s s' : Stage σ}, After s s' →
    (∃ failure, s.files.expected here (h.exampleOf name) = .error failure ∧
      s'.files.expected here (h.exampleOf name) = .error failure) ∨
    ∃ text text', s.files.expected here (h.exampleOf name) = .ok text ∧
      s'.files.expected here (h.exampleOf name) = .ok text' ∧ Fixture text text'
  weaken : ∀ {s s' : Stage σ}, After s s' → Before s s'

/-! ## §2 An example in step -/

variable {h : Harness σ} {here : Location} {name : String} {s s' t : Stage σ}
  {uses : List (Use σ)} {text : String} {Before After : Stage σ → Stage σ → Prop}
  {Fixture : Option String → Option String → Prop}

section

variable (hstep : h.InStep here name Before After Fixture)
include hstep

/-- The compilation of an example goes the same way twice. -/
theorem Compiles.inStep {r : Except Failure String}
    (hcompile : h.Compiles here (h.exampleOf name) s uses r t) (hs : Before s s') :
    ∃ uses' t', h.Compiles here (h.exampleOf name) s' uses' r t' ∧
      uses'.map Use.event = uses.map Use.event ∧ Before t t' ∧
      ∀ script, r = .ok script → After t t' := by
  have hartifact := hstep.artifact hs
  cases hcompile with
  | missing hfile =>
    have hfile' : s'.files.file? here (h.exampleOf name).artifact = none := by
      rw [← Option.isNone_iff_eq_none, ← Option.not_isSome, ← hartifact, hfile]
      rfl
    exact ⟨_, _, .missing hfile', rfl, hs, fun _ hr => by cases hr⟩
  | unstarted hfile hanswer =>
    obtain ⟨houtcome, hafter⟩ := hstep.compiled hs hfile
    exact ⟨_, _, .unstarted (hartifact ▸ hfile) (houtcome ▸ hanswer), rfl, hafter,
      fun _ hr => by cases hr⟩
  | failed hfile hanswer hcode =>
    obtain ⟨houtcome, hafter⟩ := hstep.compiled hs hfile
    exact ⟨_, _, .failed (hartifact ▸ hfile) (houtcome ▸ hanswer) hcode, rfl, hafter,
      fun _ hr => by cases hr⟩
  | unwritable hfile hanswer hcode hwrite =>
    obtain ⟨houtcome, hafter⟩ := hstep.compiled hs hfile
    rcases hstep.written _ hafter with ⟨_, hcause, hcause'⟩ | ⟨_, _, hput, -⟩
    · obtain rfl := Except.error.inj (hwrite.symm.trans hcause)
      exact ⟨_, _, .unwritable (hartifact ▸ hfile) (houtcome ▸ hanswer) hcode hcause', rfl, hafter,
        fun _ hr => by cases hr⟩
    · cases hwrite.symm.trans hput
  | written hfile hanswer hcode hwrite =>
    obtain ⟨houtcome, hafter⟩ := hstep.compiled hs hfile
    rcases hstep.written _ hafter with ⟨_, hcause, -⟩ | ⟨_, _, hput, hput', hend⟩
    · cases hwrite.symm.trans hcause
    · obtain rfl := Except.ok.inj (hwrite.symm.trans hput)
      exact ⟨_, _, .written (hartifact ▸ hfile) (houtcome ▸ hanswer) hcode hput', rfl,
        hstep.weaken hend, fun _ _ => hend⟩

/-- Running an example's script goes the same way twice. -/
theorem Runs.inStep {r : Except Failure String}
    (hrun : h.Runs here (h.exampleOf name) s uses r t) (hs : After s s') :
    ∃ uses' t', h.Runs here (h.exampleOf name) s' uses' r t' ∧
      uses'.map Use.event = uses.map Use.event ∧ After t t' := by
  obtain ⟨hfound, hsearched⟩ := hstep.found hs
  have hread := hstep.input hsearched
  have hran (program : Bytes) (input : String) := hstep.ran program input hsearched
  cases hrun with
  | unavailable hfind => exact ⟨_, _, .unavailable (hfound ▸ hfind), rfl, hsearched⟩
  | unread hfind hinput =>
    exact ⟨_, _, .unread (hfound ▸ hfind) (hread ▸ hinput), rfl, hsearched⟩
  | @unstarted program input _ hfind hinput hanswer =>
    exact ⟨_, _, .unstarted (hfound ▸ hfind) (hread ▸ hinput)
      ((hran program input).1 ▸ hanswer), rfl, (hran program input).2⟩
  | @failed program input _ hfind hinput hanswer hcode =>
    exact ⟨_, _, .failed (hfound ▸ hfind) (hread ▸ hinput)
      ((hran program input).1 ▸ hanswer) hcode, rfl, (hran program input).2⟩
  | @finished program input _ hfind hinput hanswer hcode =>
    exact ⟨_, _, .finished (hfound ▸ hfind) (hread ▸ hinput)
      ((hran program input).1 ▸ hanswer) hcode, rfl, (hran program input).2⟩

/-- An example goes the same way twice: it fails in the same way and with the same text, or it is
compared, the same output with what was expected each time. -/
theorem Course.inStep {r : Except Failure Comparison}
    (hcourse : h.Course here name s uses text r t) (hs : Before s s') :
    ∃ uses' text' r' t', h.Course here name s' uses' text' r' t' ∧
      uses'.map Use.event = uses.map Use.event ∧ Before t t' ∧
      ((∃ failure, r = .error failure ∧ r' = .error failure ∧ text' = text) ∨
        ∃ actual expected expected', Fixture expected expected' ∧ After t t' ∧
          r = .ok (compare actual expected) ∧ r' = .ok (compare actual expected') ∧
          text = Report.scriptWritten (h.exampleOf name).script ++
            Report.outcome name (compare actual expected) ∧
          text' = Report.scriptWritten (h.exampleOf name).script ++
            Report.outcome name (compare actual expected')) := by
  have hbuilt := hstep.built hs
  cases hcourse with
  | uncompiled hcompile =>
    obtain ⟨_, t', hcompile', hevents, ht, -⟩ := hcompile.inStep hstep hbuilt
    refine ⟨_, _, _, t', .uncompiled hcompile', ?_, ht, Or.inl ⟨_, rfl, rfl, rfl⟩⟩
    simp [hevents, building, Stage.call]
  | unrun hcompile hrun =>
    obtain ⟨_, _, hcompile', hevents, -, hmiddle⟩ := hcompile.inStep hstep hbuilt
    obtain ⟨_, t', hrun', hevents', ht⟩ := hrun.inStep hstep (hmiddle _ rfl)
    refine ⟨_, _, _, t', .unrun hcompile' hrun', ?_, hstep.weaken ht,
      Or.inl ⟨_, rfl, rfl, rfl⟩⟩
    simp [hevents, hevents', building, Stage.call]
  | uncompared hcompile hrun hexpected =>
    obtain ⟨_, _, hcompile', hevents, -, hmiddle⟩ := hcompile.inStep hstep hbuilt
    obtain ⟨_, t', hrun', hevents', ht⟩ := hrun.inStep hstep (hmiddle _ rfl)
    rcases hstep.expected ht with ⟨_, hfail, hfail'⟩ | ⟨_, _, hread, -⟩
    · obtain rfl := Except.error.inj (hexpected.symm.trans hfail)
      refine ⟨_, _, _, t', .uncompared hcompile' hrun' hfail', ?_, hstep.weaken ht,
        Or.inl ⟨_, rfl, rfl, rfl⟩⟩
      simp [hevents, hevents', building, Stage.call]
    · cases hexpected.symm.trans hread
  | @compared _ _ _ actual _ _ _ hcompile hrun hexpected =>
    obtain ⟨_, _, hcompile', hevents, -, hmiddle⟩ := hcompile.inStep hstep hbuilt
    obtain ⟨_, t', hrun', hevents', ht⟩ := hrun.inStep hstep (hmiddle _ rfl)
    rcases hstep.expected ht with ⟨_, hfail, -⟩ | ⟨expected, expected', hread, hread', hfixture⟩
    · cases hexpected.symm.trans hfail
    · obtain rfl := Except.ok.inj (hexpected.symm.trans hread)
      refine ⟨_, _, _, t', .compared hcompile' hrun' hread', ?_, hstep.weaken ht,
        Or.inr ⟨actual, _, expected', hfixture, ht, rfl, rfl, rfl, rfl⟩⟩
      simp [hevents, hevents', building, Stage.call]

end

/-! ## §3 A list of examples in step -/

/-- A list of examples goes the same way twice: with the same uses of the tools and with the same
failure, if there is one. Each example that does not fail leads from one relation of the stages to
the next; an example that fails leaves the one it started with. Where the fixtures do not differ,
neither do the texts and the comparisons. -/
theorem Courses.inStep {ι : Type} {R : ι → Stage σ → Stage σ → Prop} {f : ι → String → ι}
    {names : List String} {segments : List (List (Use σ))}
    {ending : List Comparison × Option Failure}
    (hcourses : h.Courses here names s segments text ending t)
    (hstep : ∀ name ∈ names, ∀ i, h.InStep here name (R i) (R (f i name)) Fixture)
    {i : ι} (hs : R i s s') :
    ∃ segments' text' ending' t', h.Courses here names s' segments' text' ending' t' ∧
      segments'.flatten.map Use.event = segments.flatten.map Use.event ∧ R i t t' ∧
      ending'.2 = ending.2 ∧
      (ending.2 = none → R (names.foldl f i) t t') ∧
      ((∀ expected expected', Fixture expected expected' → expected = expected') →
        text' = text ∧ ending' = ending) := by
  induction hcourses generalizing i s' with
  | done =>
    exact ⟨_, _, _, s', .done, rfl, hs, rfl, fun _ => hs, fun _ => ⟨rfl, rfl⟩⟩
  | stop hcourse =>
    obtain ⟨uses', text', r', t', hcourse', hevents, ht, hends⟩ :=
      hcourse.inStep (hstep _ List.mem_cons_self i) hs
    rcases hends with ⟨_, hr, rfl, htext⟩ | ⟨_, _, _, _, _, hr, _⟩
    · obtain rfl := Except.error.inj hr
      exact ⟨_, _, _, t', .stop hcourse', by simpa using hevents, ht, rfl, nofun,
        fun _ => ⟨htext, rfl⟩⟩
    · cases hr
  | next hcourse _ ih =>
    obtain ⟨uses', line, r', m', hcourse', hevents, -, hends⟩ :=
      hcourse.inStep (hstep _ List.mem_cons_self i) hs
    rcases hends with ⟨_, hr, _⟩ | ⟨_, expected, expected', hfixture, hm, hr, rfl, hline, hline'⟩
    · cases hr
    · obtain rfl := Except.ok.inj hr
      -- the rest starts with the next relation and is weakened to the first one at its end
      obtain ⟨_, _, ⟨_, _⟩, t', hcourses', hevents', ht, hfailure, hend, hsame⟩ :=
        ih (fun name hname => hstep name (List.mem_cons_of_mem _ hname)) hm
      refine ⟨_, _, _, t', .next hcourse' hcourses', by simp [hevents, hevents'],
        (hstep _ List.mem_cons_self i).weaken ht, hfailure, hend, ?_⟩
      intro hequal
      obtain rfl := hequal _ _ hfixture
      obtain ⟨rfl, hending⟩ := hsame hequal
      obtain ⟨rfl, rfl⟩ := Prod.mk.inj hending
      exact ⟨by rw [hline, hline'], rfl⟩

/-- The same for stages that stay related in one way. -/
theorem Courses.inStep_same {R : Stage σ → Stage σ → Prop} {names : List String}
    {segments : List (List (Use σ))} {ending : List Comparison × Option Failure}
    (hcourses : h.Courses here names s segments text ending t)
    (hstep : ∀ name ∈ names, h.InStep here name R R Fixture) (hs : R s s') :
    ∃ segments' text' ending' t', h.Courses here names s' segments' text' ending' t' ∧
      segments'.flatten.map Use.event = segments.flatten.map Use.event ∧ R t t' ∧
      ending'.2 = ending.2 := by
  obtain ⟨segments', text', ending', t', hcourses', hevents, ht, hfailure, -⟩ :=
    hcourses.inStep (R := fun _ : Unit => R) (f := fun _ _ => ()) (i := ())
      (fun name hname _ => hstep name hname) hs
  exact ⟨segments', text', ending', t', hcourses', hevents, ht, hfailure⟩

end Exemplar.Harness
