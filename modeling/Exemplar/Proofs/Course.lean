/-
Exemplar.Proofs.Course — how an example goes, and how a list of them goes.

The rules below say all that a verification does while its sink takes everything: which uses it
makes of the tools and on which stage each of them, what it tells, how it ends and which stage it
leaves. A phase has one rule for each way in which it can end. The rules are stated on stages, so
that records and times play no part in them.

  §1 uses of the tools
  §2 the rules of a phase
  §3 the rules of an example, and of a list of examples
  §4 what the rules leave open, and what they keep
  §5 what a world gains
  §6 every verification goes by the rules
  §7 a small world
-/
import Exemplar.Harness
import Exemplar.Proofs.Session

namespace Exemplar

variable {σ : Type}

/-! ## §1 Uses of the tools -/

/-- One use of the tools, with the stages before and after it. -/
structure Use (σ : Type) where
  event : Event
  before : Stage σ
  after : Stage σ

namespace Stage

/-- The use that a call is. -/
def call (s : Stage σ) (tools : Toolchain σ) (call : Call) : Use σ :=
  ⟨.call call, s, (s.answer tools call).stage⟩

/-- The use that looking for a program is. -/
def search (s : Stage σ) (tools : Toolchain σ) (program : String) : Use σ :=
  ⟨.locate program, s, (s.find tools program).2⟩

end Stage

/-- The last of the arguments that are added to a command is the last of all. -/
theorem Command.getLast?_argsWith (command : Command) (extra : List String) (arg : String) :
    (command.argsWith (extra ++ [arg])).getLast? = some arg := by
  simp [Command.argsWith]

namespace Harness

variable (h : Harness σ) (here : Location) (ex : Example)

/-- The building of an example. -/
def building (s : Stage σ) : Use σ := s.ticked.call h.tools (h.buildCall ex)

/-- The compiling of an example's artifact. -/
def compiling (s : Stage σ) : Use σ := s.call h.tools (h.compileCall ex)

/-- The search for the runtime. -/
def searching (s : Stage σ) : Use σ := s.search h.tools h.settings.runtime.program

/-- The running of an example's script. -/
def running (s : Stage σ) (program : Bytes) (input : String) : Use σ :=
  s.call h.tools (h.runCall ex program input)

/-- The uses of the tools that an example can make, on any stage. -/
inductive Makes : Use σ → Prop
  | build (s : Stage σ) : Makes (h.building ex s)
  | compile (s : Stage σ) : Makes (h.compiling ex s)
  | search (s : Stage σ) : Makes (h.searching s)
  | run (s : Stage σ) (program : Bytes) (input : String) : Makes (h.running ex s program input)

/-! ## §2 The rules of a phase -/

/-- How the compilation of an example goes from a stage. -/
inductive Compiles (s : Stage σ) : List (Use σ) → Except Failure String → Stage σ → Prop
  | missing (hfile : s.files.file? here ex.artifact = none) :
      Compiles s [] (.error (.missingArtifact ex.name ex.artifact)) s
  | unstarted {cause : Cause} (hfile : (s.files.file? here ex.artifact).isSome)
      (hanswer : (s.answer h.tools (h.compileCall ex)).outcome = .error cause) :
      Compiles s [h.compiling ex s] (.error (.spawn h.settings.compiler.program cause))
        (h.compiling ex s).after
  | failed {outcome : Outcome} (hfile : (s.files.file? here ex.artifact).isSome)
      (hanswer : (s.answer h.tools (h.compileCall ex)).outcome = .ok outcome)
      (hcode : outcome.code ≠ some 0) :
      Compiles s [h.compiling ex s] (.error (.compiler ex.name outcome.code outcome.stderr))
        (h.compiling ex s).after
  | unwritable {outcome : Outcome} {cause : Cause}
      (hfile : (s.files.file? here ex.artifact).isSome)
      (hanswer : (s.answer h.tools (h.compileCall ex)).outcome = .ok outcome)
      (hcode : outcome.code = some 0)
      (hwrite : (h.compiling ex s).after.files.write here ex.script
        (Utf8.encode outcome.stdout) = .error cause) :
      Compiles s [h.compiling ex s] (.error (.access ex.script cause)) (h.compiling ex s).after
  | written {outcome : Outcome} {files : FileSystem}
      (hfile : (s.files.file? here ex.artifact).isSome)
      (hanswer : (s.answer h.tools (h.compileCall ex)).outcome = .ok outcome)
      (hcode : outcome.code = some 0)
      (hwrite : (h.compiling ex s).after.files.write here ex.script
        (Utf8.encode outcome.stdout) = .ok files) :
      Compiles s [h.compiling ex s] (.ok outcome.stdout) ⟨(h.compiling ex s).after.tools, files⟩

/-- How running an example's script goes from a stage. -/
inductive Runs (s : Stage σ) : List (Use σ) → Except Failure String → Stage σ → Prop
  | unavailable (hfind : (s.find h.tools h.settings.runtime.program).1 = none) :
      Runs s [h.searching s] (.error (.runtimeUnavailable h.settings.runtime.program))
        (h.searching s).after
  | unread {program : Bytes} {failure : Failure}
      (hfind : (s.find h.tools h.settings.runtime.program).1 = some program)
      (hinput : (h.searching s).after.files.input here ex = .error failure) :
      Runs s [h.searching s] (.error failure) (h.searching s).after
  | unstarted {program : Bytes} {input : String} {cause : Cause}
      (hfind : (s.find h.tools h.settings.runtime.program).1 = some program)
      (hinput : (h.searching s).after.files.input here ex = .ok input)
      (hanswer : ((h.searching s).after.answer h.tools (h.runCall ex program input)).outcome =
        .error cause) :
      Runs s [h.searching s, h.running ex (h.searching s).after program input]
        (.error (.spawn (Utf8.decodeLossy program) cause))
        (h.running ex (h.searching s).after program input).after
  | failed {program : Bytes} {input : String} {outcome : Outcome}
      (hfind : (s.find h.tools h.settings.runtime.program).1 = some program)
      (hinput : (h.searching s).after.files.input here ex = .ok input)
      (hanswer : ((h.searching s).after.answer h.tools (h.runCall ex program input)).outcome =
        .ok outcome)
      (hcode : outcome.code ≠ some 0) :
      Runs s [h.searching s, h.running ex (h.searching s).after program input]
        (.error (.runtime ex.name outcome.code outcome.stderr))
        (h.running ex (h.searching s).after program input).after
  | finished {program : Bytes} {input : String} {outcome : Outcome}
      (hfind : (s.find h.tools h.settings.runtime.program).1 = some program)
      (hinput : (h.searching s).after.files.input here ex = .ok input)
      (hanswer : ((h.searching s).after.answer h.tools (h.runCall ex program input)).outcome =
        .ok outcome)
      (hcode : outcome.code = some 0) :
      Runs s [h.searching s, h.running ex (h.searching s).after program input]
        (.ok outcome.stdout) (h.running ex (h.searching s).after program input).after

/-! ## §3 The rules of an example, and of a list of examples -/

/-- How an example goes from a stage: the uses of the tools, the text told, the end, and the stage
after it. A text is told once the script is written, and another one once there is a comparison. -/
inductive Course (name : String) (s : Stage σ) :
    List (Use σ) → String → Except Failure Comparison → Stage σ → Prop
  | uncompiled {uses : List (Use σ)} {failure : Failure} {t : Stage σ}
      (hcompile : h.Compiles here (h.exampleOf name) (h.building (h.exampleOf name) s).after
        uses (.error failure) t) :
      Course name s (h.building (h.exampleOf name) s :: uses) "" (.error failure) t
  | unrun {uses uses' : List (Use σ)} {script : String} {failure : Failure} {t u : Stage σ}
      (hcompile : h.Compiles here (h.exampleOf name) (h.building (h.exampleOf name) s).after
        uses (.ok script) t)
      (hrun : h.Runs here (h.exampleOf name) t uses' (.error failure) u) :
      Course name s (h.building (h.exampleOf name) s :: uses ++ uses')
        (Report.scriptWritten (h.exampleOf name).script) (.error failure) u
  | uncompared {uses uses' : List (Use σ)} {script actual : String} {failure : Failure}
      {t u : Stage σ}
      (hcompile : h.Compiles here (h.exampleOf name) (h.building (h.exampleOf name) s).after
        uses (.ok script) t)
      (hrun : h.Runs here (h.exampleOf name) t uses' (.ok actual) u)
      (hexpected : u.files.expected here (h.exampleOf name) = .error failure) :
      Course name s (h.building (h.exampleOf name) s :: uses ++ uses')
        (Report.scriptWritten (h.exampleOf name).script) (.error failure) u
  | compared {uses uses' : List (Use σ)} {script actual : String} {expected : Option String}
      {t u : Stage σ}
      (hcompile : h.Compiles here (h.exampleOf name) (h.building (h.exampleOf name) s).after
        uses (.ok script) t)
      (hrun : h.Runs here (h.exampleOf name) t uses' (.ok actual) u)
      (hexpected : u.files.expected here (h.exampleOf name) = .ok expected) :
      Course name s (h.building (h.exampleOf name) s :: uses ++ uses')
        (Report.scriptWritten (h.exampleOf name).script ++
          Report.outcome name (compare actual expected))
        (.ok (compare actual expected)) u

/-- How a list of examples goes from a stage: each from where the one before it ended, up to the
first that fails. The comparisons are those of the examples that do not. -/
inductive Courses : List String → Stage σ → List (List (Use σ)) → String →
    List Comparison × Option Failure → Stage σ → Prop
  | done {s : Stage σ} : Courses [] s [] "" ([], none) s
  | stop {name : String} {names : List String} {s t : Stage σ} {uses : List (Use σ)}
      {text : String} {failure : Failure}
      (hcourse : h.Course here name s uses text (.error failure) t) :
      Courses (name :: names) s [uses] text ([], some failure) t
  | next {name : String} {names : List String} {s t u : Stage σ} {uses : List (Use σ)}
      {segments : List (List (Use σ))} {text text' : String} {comparison : Comparison}
      {comparisons : List Comparison} {failure? : Option Failure}
      (hcourse : h.Course here name s uses text (.ok comparison) t)
      (hrest : Courses names t segments text' (comparisons, failure?) u) :
      Courses (name :: names) s (uses :: segments) (text ++ text')
        (comparison :: comparisons, failure?) u

end Harness

/-! ## §4 What the rules leave open, and what they keep

The rules leave nothing open: from one stage there is one way to go. -/

namespace Harness

variable {h : Harness σ} {here : Location} {ex : Example} {name : String} {names : List String}
  {s t t' : Stage σ} {uses uses' : List (Use σ)} {segments segments' : List (List (Use σ))}
  {text text' : String}

theorem Compiles.unique {r r' : Except Failure String} (hone : h.Compiles here ex s uses r t)
    (hother : h.Compiles here ex s uses' r' t') : uses = uses' ∧ r = r' ∧ t = t' := by
  cases hone <;> cases hother <;> simp_all

theorem Runs.unique {r r' : Except Failure String} (hone : h.Runs here ex s uses r t)
    (hother : h.Runs here ex s uses' r' t') : uses = uses' ∧ r = r' ∧ t = t' := by
  cases hone <;> cases hother <;> simp_all

theorem Course.unique {r r' : Except Failure Comparison}
    (hone : h.Course here name s uses text r t) (hother : h.Course here name s uses' text' r' t') :
    uses = uses' ∧ text = text' ∧ r = r' ∧ t = t' := by
  cases hone <;> cases hother <;> grind [Compiles.unique, Runs.unique]

theorem Courses.unique {ending ending' : List Comparison × Option Failure}
    (hone : h.Courses here names s segments text ending t)
    (hother : h.Courses here names s segments' text' ending' t') :
    segments = segments' ∧ text = text' ∧ ending = ending' ∧ t = t' := by
  induction hone generalizing segments' text' ending' t' with
  | done =>
    cases hother
    exact ⟨rfl, rfl, rfl, rfl⟩
  | stop hcourse =>
    cases hother with
    | stop hcourse' =>
      obtain ⟨rfl, rfl, hr, rfl⟩ := hcourse.unique hcourse'
      obtain rfl := Except.error.inj hr
      exact ⟨rfl, rfl, rfl, rfl⟩
    | next hcourse' _ =>
      obtain ⟨-, -, hr, -⟩ := hcourse.unique hcourse'
      cases hr
  | next hcourse _ ih =>
    cases hother with
    | stop hcourse' =>
      obtain ⟨-, -, hr, -⟩ := hcourse.unique hcourse'
      cases hr
    | next hcourse' hrest' =>
      obtain ⟨rfl, rfl, hr, rfl⟩ := hcourse.unique hcourse'
      obtain rfl := Except.ok.inj hr
      obtain ⟨rfl, rfl, hending, rfl⟩ := ih hrest'
      obtain ⟨rfl, rfl⟩ := Prod.mk.inj hending
      exact ⟨rfl, rfl, rfl, rfl⟩

/-! An example makes no other uses than its own. -/

theorem Compiles.makes {r : Except Failure String} (hcompile : h.Compiles here ex s uses r t) :
    ∀ use ∈ uses, h.Makes ex use := by
  cases hcompile <;> simp [Makes.compile]

theorem Runs.makes {r : Except Failure String} (hrun : h.Runs here ex s uses r t) :
    ∀ use ∈ uses, h.Makes ex use := by
  cases hrun <;> simp [Makes.search, Makes.run]

theorem Course.makes {r : Except Failure Comparison}
    (hcourse : h.Course here name s uses text r t) :
    ∀ use ∈ uses, h.Makes (h.exampleOf name) use := by
  have hbuild : h.Makes (h.exampleOf name) (h.building (h.exampleOf name) s) := .build s
  cases hcourse with
  | uncompiled hcompile => simpa [hbuild] using hcompile.makes
  | unrun hcompile hrun =>
    simpa [hbuild, or_imp, forall_and] using And.intro hcompile.makes hrun.makes
  | uncompared hcompile hrun _ =>
    simpa [hbuild, or_imp, forall_and] using And.intro hcompile.makes hrun.makes
  | compared hcompile hrun _ =>
    simpa [hbuild, or_imp, forall_and] using And.intro hcompile.makes hrun.makes

theorem Courses.makes {ending : List Comparison × Option Failure}
    (hcourses : h.Courses here names s segments text ending t) :
    ∀ use ∈ segments.flatten, ∃ name ∈ names, h.Makes (h.exampleOf name) use := by
  induction hcourses with
  | done => simp
  | stop hcourse =>
    intro use huse
    exact ⟨_, List.mem_cons_self, hcourse.makes use (by simpa using huse)⟩
  | next hcourse _ ih =>
    intro use huse
    rw [List.flatten_cons, List.mem_append] at huse
    rcases huse with huse | huse
    · exact ⟨_, List.mem_cons_self, hcourse.makes use huse⟩
    · obtain ⟨other, hother, hmakes⟩ := ih use huse
      exact ⟨other, List.mem_cons_of_mem _ hother, hmakes⟩

/-- A list of examples that fails is cut at one of them: those before it do not fail, and that one
does. -/
theorem Courses.cut {ending : List Comparison × Option Failure} {failure : Failure}
    (hcourses : h.Courses here names s segments text ending t) (hend : ending.2 = some failure) :
    ∃ done name rest whole cut told line comparisons m, names = done ++ name :: rest ∧
      segments = whole ++ [cut] ∧ text = told ++ line ∧
      h.Courses here done s whole told (comparisons, none) m ∧
      h.Course here name m cut line (.error failure) t := by
  induction hcourses with
  | done => cases hend
  | stop hcourse =>
    obtain rfl := Option.some.inj hend
    exact ⟨[], _, _, [], _, "", _, [], _, rfl, rfl, by simp, .done, hcourse⟩
  | next hcourse _ ih =>
    obtain ⟨done, name, rest, whole, cut, told, line, comparisons, m, rfl, rfl, rfl, hdone, hcut⟩ :=
      ih hend
    exact ⟨_ :: done, name, rest, _ :: whole, cut, _ ++ told, line, _ :: comparisons, m, rfl, rfl,
      (String.append_assoc ..).symm, .next hcourse hdone, hcut⟩

/-! What time, the uses of the tools and the writing of the script each keep is kept by all. -/

section

variable {P : Stage σ → Prop}

theorem Compiles.keeps {r : Except Failure String} (hcompile : h.Compiles here ex s uses r t)
    (huse : ∀ use ∈ uses, P use.before → P use.after)
    (hwrite : ∀ (s : Stage σ) (data : Bytes) (files : FileSystem), P s →
      s.files.write here ex.script data = .ok files → P ⟨s.tools, files⟩)
    (hs : P s) : P t := by
  cases hcompile with
  | missing _ => exact hs
  | unstarted _ _ => exact huse _ List.mem_cons_self hs
  | failed _ _ _ => exact huse _ List.mem_cons_self hs
  | unwritable _ _ _ _ => exact huse _ List.mem_cons_self hs
  | written _ _ _ hwritten => exact hwrite _ _ _ (huse _ List.mem_cons_self hs) hwritten

theorem Runs.keeps {r : Except Failure String} (hrun : h.Runs here ex s uses r t)
    (huse : ∀ use ∈ uses, P use.before → P use.after) (hs : P s) : P t := by
  have hrunning : ∀ {program : Bytes} {input : String},
      uses = [h.searching s, h.running ex (h.searching s).after program input] →
        P (h.running ex (h.searching s).after program input).after := by
    rintro program input rfl
    exact huse _ (List.mem_cons_of_mem _ List.mem_cons_self) (huse _ List.mem_cons_self hs)
  cases hrun with
  | unavailable _ => exact huse _ List.mem_cons_self hs
  | unread _ _ => exact huse _ List.mem_cons_self hs
  | unstarted _ _ _ => exact hrunning rfl
  | failed _ _ _ _ => exact hrunning rfl
  | finished _ _ _ _ => exact hrunning rfl

theorem Course.keeps {r : Except Failure Comparison} (hcourse : h.Course here name s uses text r t)
    (htick : ∀ s, P s → P s.ticked)
    (huse : ∀ use ∈ uses, P use.before → P use.after)
    (hwrite : ∀ (s : Stage σ) (data : Bytes) (files : FileSystem), P s →
      s.files.write here (h.exampleOf name).script data = .ok files → P ⟨s.tools, files⟩)
    (hs : P s) : P t := by
  have hbuilt : h.building (h.exampleOf name) s ∈ uses := by
    cases hcourse <;> simp
  have hstart := huse _ hbuilt (htick s hs)
  cases hcourse with
  | uncompiled hcompile =>
    exact hcompile.keeps (fun use huse' => huse use (by simp [huse'])) hwrite hstart
  | unrun hcompile hrun =>
    have hmiddle := hcompile.keeps (fun use huse' => huse use (by simp [huse'])) hwrite hstart
    exact hrun.keeps (fun use huse' => huse use (by simp [huse'])) hmiddle
  | uncompared hcompile hrun _ =>
    have hmiddle := hcompile.keeps (fun use huse' => huse use (by simp [huse'])) hwrite hstart
    exact hrun.keeps (fun use huse' => huse use (by simp [huse'])) hmiddle
  | compared hcompile hrun _ =>
    have hmiddle := hcompile.keeps (fun use huse' => huse use (by simp [huse'])) hwrite hstart
    exact hrun.keeps (fun use huse' => huse use (by simp [huse'])) hmiddle

theorem Courses.keeps {ending : List Comparison × Option Failure}
    (hcourses : h.Courses here names s segments text ending t)
    (htick : ∀ s, P s → P s.ticked)
    (huse : ∀ use ∈ segments.flatten, P use.before → P use.after)
    (hwrite : ∀ name ∈ names, ∀ (s : Stage σ) (data : Bytes) (files : FileSystem), P s →
      s.files.write here (h.exampleOf name).script data = .ok files → P ⟨s.tools, files⟩)
    (hs : P s) : P t := by
  induction hcourses with
  | done => exact hs
  | stop hcourse =>
    exact hcourse.keeps htick (by simpa using huse) (hwrite _ List.mem_cons_self) hs
  | next hcourse _ ih =>
    rw [List.flatten_cons, List.forall_mem_append] at huse
    have hmiddle := hcourse.keeps htick huse.1 (hwrite _ List.mem_cons_self) hs
    exact ih huse.2 (fun name hname => hwrite name (List.mem_cons_of_mem _ hname)) hmiddle

end

end Harness

/-! ## §5 What a world gains -/

/-- Whether an event is a use of the tools. -/
def Event.isUse : Event → Bool
  | .call _ | .locate _ => true
  | .log _ | .output _ => false

namespace World

/-- The uses of the tools among the events of a world, in order. -/
def uses (w : World σ) : List Event := w.events.filter Event.isUse

/-- A world has gained some uses of the tools and some text of the report, and has no other
directory and no other limit than before. -/
structure Gained (w after : World σ) (uses : List (Use σ)) (text : String) : Prop where
  here : after.here = w.here
  uses : after.uses = w.uses ++ uses.map Use.event
  sink : after.sink = { w.sink with taken := w.sink.taken ++ Utf8.encode text }

namespace Gained

variable {w v u : World σ} {xs ys : List (Use σ)} {a b : String}

theorem refl (w : World σ) : Gained w w [] "" where
  here := rfl
  uses := by simp
  sink := by simp [Utf8.encode]

theorem trans (h : Gained w v xs a) (h' : Gained v u ys b) : Gained w u (xs ++ ys) (a ++ b) where
  here := h'.here.trans h.here
  uses := by rw [h'.uses, h.uses, List.map_append, List.append_assoc]
  sink := by simp [h'.sink, h.sink, Utf8.encode]

/-- A world without a limit stays one. -/
theorem unlimited (h : Gained w v xs a) (hw : w.Unlimited) : v.Unlimited := by
  rw [Unlimited, h.sink]
  exact hw

/-- A record gains nothing. -/
theorem record (h : Gained w v xs a) (record : Log.Record) :
    Gained w (v.noted (.log record)) xs a where
  here := h.here
  uses := by simpa [World.uses, noted, Event.isUse] using h.uses
  sink := h.sink

/-- What is gained after a record was made is gained in all. -/
theorem of_record {record : Log.Record} (h : Gained (w.noted (.log record)) v xs a) :
    Gained w v xs a := by
  simpa using ((refl w).record record).trans h

theorem staged (h : Gained w v xs a) (s : Stage σ) : Gained w (v.staged s) xs a where
  here := h.here
  uses := h.uses
  sink := h.sink

/-- An answered call is one use; the records of the tools are none. -/
theorem answered (h : Gained w v xs a) (tools : Toolchain σ) (call : Call) :
    Gained w (v.answered call (v.stage.answer tools call)) (xs ++ [v.stage.call tools call]) a where
  here := h.here
  uses := by
    have hrecords : ∀ records : List Log.Record,
        (Event.call call :: records.map Event.log).filter Event.isUse = [.call call] := by
      intro records
      rw [List.filter_cons_of_pos rfl, List.filter_eq_nil_iff.mpr (by simp [Event.isUse])]
    have huses := h.uses
    simp only [World.uses] at huses
    simp [World.uses, World.answered, World.staged, hrecords, huses, Stage.call]
  sink := h.sink

theorem searched (h : Gained w v xs a) (tools : Toolchain σ) (program : String) :
    Gained w ((v.staged (v.stage.find tools program).2).noted (.locate program))
      (xs ++ [v.stage.search tools program]) a where
  here := h.here
  uses := by
    have huses := h.uses
    simp only [World.uses] at huses
    simp [World.uses, noted, World.staged, Event.isUse, huses, Stage.search]
  sink := h.sink

theorem told (h : Gained w v xs a) (hv : v.Unlimited) (text : String) :
    Gained w (v.told (Utf8.encode text)) xs (a ++ text) where
  here := h.here
  uses := by simpa [World.uses, World.told, Event.isUse] using h.uses
  sink := by
    have hlimit : v.sink.limit = none := hv
    have hsame : w.sink.limit = none := by rw [h.sink] at hlimit; exact hlimit
    simp [World.told, Sink.take, Sink.fitting, h.sink, hsame, Utf8.encode]

end Gained

end World

/-! ## §6 Every verification goes by the rules -/

namespace Harness

open Session

variable (h : Harness σ)

/-- A build makes one call and does not fail. -/
theorem build_goes (ex : Example) {w after : World σ} {r : Except Failure Build}
    (hrun : (h.build ex).perform w = (r, after)) :
    (∃ built, r = .ok built) ∧ after.stage = (h.building ex w.stage).after ∧
      w.Gained after [h.building ex w.stage] "" := by
  simp only [build, perform_bind, perform_log, perform_tick, perform_attempt,
    World.stage_staged, World.stage_noted] at hrun
  have hcall : w.Gained _ [h.building ex w.stage] "" :=
    (((World.Gained.refl w).record ⟨.info, .pipeline, "building " ++ ex.name⟩).staged
      w.stage.ticked).answered h.tools (h.buildCall ex)
  simp only [World.stage_staged] at hcall
  cases hanswer : (w.stage.ticked.answer h.tools (h.buildCall ex)).outcome with
  | ok outcome =>
    rw [hanswer] at hrun
    simp only at hrun
    split at hrun
    · simp only [perform_bind, perform_log, perform_pure, Prod.mk.injEq] at hrun
      obtain ⟨rfl, rfl⟩ := hrun
      exact ⟨⟨_, rfl⟩, rfl, (hcall.record _).record _⟩
    · simp only [perform_pure, Prod.mk.injEq] at hrun
      obtain ⟨rfl, rfl⟩ := hrun
      exact ⟨⟨_, rfl⟩, rfl, hcall⟩
  | error cause =>
    rw [hanswer] at hrun
    simp only [perform_bind, perform_log, perform_pure, Prod.mk.injEq] at hrun
    obtain ⟨rfl, rfl⟩ := hrun
    exact ⟨⟨_, rfl⟩, rfl, hcall.record _⟩

/-- Compiling an artifact that is there goes by the rules. -/
theorem compileArtifact_goes (ex : Example) {w after : World σ} {r : Except Failure String}
    (hfile : (w.files.file? w.here ex.artifact).isSome)
    (hrun : (h.compileArtifact ex).perform w = (r, after)) :
    ∃ uses, h.Compiles w.here ex w.stage uses r after.stage ∧ w.Gained after uses "" := by
  simp only [compileArtifact, perform_bind, perform_log, perform_execute, World.stage_noted]
    at hrun
  have hcall : w.Gained _ [h.compiling ex w.stage] "" :=
    ((World.Gained.refl w).record ⟨.info, .pipeline, "compiling " ++ ex.name⟩).answered
      h.tools (h.compileCall ex)
  simp only [World.stage_noted] at hcall
  refine ⟨[h.compiling ex w.stage], ?_⟩
  cases hanswer : (w.stage.answer h.tools (h.compileCall ex)).outcome with
  | error cause =>
    simp only [Answer.result, hanswer, Prod.mk.injEq] at hrun
    obtain ⟨rfl, rfl⟩ := hrun
    exact ⟨.unstarted hfile hanswer, hcall⟩
  | ok outcome =>
    simp only [Answer.result, hanswer] at hrun
    split at hrun
    · rename_i hsucceeded
      have hcode : outcome.code = some 0 := by simpa [Outcome.succeeded] using hsucceeded
      simp only [perform_bind, perform_store, World.files_answered, World.here_answered,
        World.here_noted] at hrun
      cases hwrite : (w.stage.answer h.tools (h.compileCall ex)).files.write w.here ex.script
          (Utf8.encode outcome.stdout) with
      | ok files =>
        simp only [hwrite, perform_pure, Prod.mk.injEq] at hrun
        obtain ⟨rfl, rfl⟩ := hrun
        exact ⟨.written hfile hanswer hcode hwrite, hcall.staged _⟩
      | error cause =>
        simp only [hwrite, Prod.mk.injEq] at hrun
        obtain ⟨rfl, rfl⟩ := hrun
        exact ⟨.unwritable hfile hanswer hcode hwrite, hcall⟩
    · rename_i hfailed
      have hcode : outcome.code ≠ some 0 := by simpa [Outcome.succeeded] using hfailed
      simp only [perform_throw, Prod.mk.injEq] at hrun
      obtain ⟨rfl, rfl⟩ := hrun
      exact ⟨.failed hfile hanswer hcode, hcall⟩

theorem compile_goes (ex : Example) (built : Option Build) {w after : World σ}
    {r : Except Failure String} (hrun : (h.compile ex built).perform w = (r, after)) :
    ∃ uses, h.Compiles w.here ex w.stage uses r after.stage ∧ w.Gained after uses "" := by
  rw [compile, perform_bind, perform_inspect] at hrun
  cases hfile : w.files.file? w.here ex.artifact with
  | none =>
    simp only [hfile, perform_throw, Prod.mk.injEq] at hrun
    obtain ⟨rfl, rfl⟩ := hrun
    exact ⟨[], .missing hfile, World.Gained.refl w⟩
  | some artifact =>
    simp only [hfile] at hrun
    have hsome : (w.files.file? w.here ex.artifact).isSome := by rw [hfile]; rfl
    split at hrun
    · simp only [perform_bind, perform_log] at hrun
      obtain ⟨uses, hcompiles, hgained⟩ :=
        h.compileArtifact_goes ex (w := w.noted _) hsome hrun
      exact ⟨uses, hcompiles, hgained.of_record⟩
    · exact h.compileArtifact_goes ex hsome hrun

theorem run_goes (ex : Example) {w after : World σ} {r : Except Failure String}
    (hrun : (h.run ex).perform w = (r, after)) :
    ∃ uses, h.Runs w.here ex w.stage uses r after.stage ∧ w.Gained after uses "" := by
  rw [run, perform_bind, perform_locate] at hrun
  have hsearch := (World.Gained.refl w).searched h.tools h.settings.runtime.program
  cases hfind : (w.stage.find h.tools h.settings.runtime.program).1 with
  | none =>
    simp only [hfind, perform_throw, Prod.mk.injEq] at hrun
    obtain ⟨rfl, rfl⟩ := hrun
    exact ⟨_, .unavailable hfind, hsearch⟩
  | some program =>
    simp only [hfind, perform_bind, perform_log, perform_consult, World.files_noted,
      World.files_staged, World.here_noted, World.here_staged] at hrun
    have hfound : w.Gained _ [h.searching w.stage] "" :=
      hsearch.record ⟨.debug, .pipeline, "runtime resolved to " ++ Utf8.decodeLossy program⟩
    cases hinput : (w.stage.find h.tools h.settings.runtime.program).2.files.input w.here ex with
    | error failure =>
      rw [hinput] at hrun
      obtain ⟨rfl, rfl⟩ := Prod.mk.inj hrun
      exact ⟨_, .unread hfind hinput, hfound⟩
    | ok input =>
      rw [hinput] at hrun
      simp only [perform_execute, World.stage_noted, World.stage_staged] at hrun
      have hcall : w.Gained _
          [h.searching w.stage, h.running ex (h.searching w.stage).after program input] "" :=
        (hfound.record ⟨.info, .pipeline, "running " ++ ex.name ++ ".lua"⟩).answered
          h.tools (h.runCall ex program input)
      simp only [World.stage_noted, World.stage_staged] at hcall
      refine ⟨[h.searching w.stage, h.running ex (h.searching w.stage).after program input], ?_⟩
      cases hanswer : ((w.stage.find h.tools h.settings.runtime.program).2.answer h.tools
          (h.runCall ex program input)).outcome with
      | error cause =>
        simp only [Answer.result, hanswer, Prod.mk.injEq] at hrun
        obtain ⟨rfl, rfl⟩ := hrun
        exact ⟨.unstarted hfind hinput hanswer, hcall⟩
      | ok outcome =>
        simp only [Answer.result, hanswer] at hrun
        split at hrun
        · rename_i hsucceeded
          have hcode : outcome.code = some 0 := by simpa [Outcome.succeeded] using hsucceeded
          simp only [perform_pure, Prod.mk.injEq] at hrun
          obtain ⟨rfl, rfl⟩ := hrun
          exact ⟨.finished hfind hinput hanswer hcode, hcall⟩
        · rename_i hfailed
          have hcode : outcome.code ≠ some 0 := by simpa [Outcome.succeeded] using hfailed
          simp only [perform_throw, Prod.mk.injEq] at hrun
          obtain ⟨rfl, rfl⟩ := hrun
          exact ⟨.failed hfind hinput hanswer hcode, hcall⟩

/-- An example goes by the rules. -/
theorem verifyOne_goes (name : String) {w after : World σ} {r : Except Failure Verdict}
    (hw : w.Unlimited) (hrun : (h.verifyOne name).perform w = (r, after)) :
    ∃ uses text result, h.Course w.here name w.stage uses text result after.stage ∧
      r = result.map Comparison.verdict ∧ w.Gained after uses text := by
  rw [verifyOne] at hrun
  rcases perform_bind_cases hrun with ⟨built, w1, hbuild, hrest⟩ | ⟨failure, hbuild, rfl⟩
  case inr =>
    obtain ⟨⟨_, hbuilt⟩, -⟩ := h.build_goes _ hbuild
    cases hbuilt
  obtain ⟨-, hstage, hgain1⟩ := h.build_goes _ hbuild
  rw [perform_bind, perform_log] at hrest
  have hlogged := hgain1.record ⟨.debug, .driver, "build of " ++ (h.exampleOf name).name ++
    " finished with " ++ built.code.shown⟩
  -- the compilation, and the text that tells of the script
  rcases perform_bind_cases hrest with ⟨script, w2, hcompile, hrest⟩ | ⟨failure, hcompile, rfl⟩
  case inr =>
    obtain ⟨uses, hcompiles, hgain2⟩ := h.compile_goes _ _ hcompile
    rw [World.here_noted, World.stage_noted, hgain1.here, hstage] at hcompiles
    exact ⟨_, _, _, .uncompiled hcompiles, rfl, by simpa using hlogged.trans hgain2⟩
  obtain ⟨uses, hcompiles, hgain2⟩ := h.compile_goes _ _ hcompile
  rw [World.here_noted, World.stage_noted, hgain1.here, hstage] at hcompiles
  have hgained2 : w.Gained w2 (h.building (h.exampleOf name) w.stage :: uses) "" := by
    simpa using hlogged.trans hgain2
  rw [perform_bind, perform_tell _ (hgained2.unlimited hw)] at hrest
  have htold := hgained2.told (hgained2.unlimited hw)
    (Report.scriptWritten (h.exampleOf name).script)
  simp only [String.empty_append] at htold
  -- the run, and the fixture
  rcases perform_bind_cases hrest with ⟨actual, w3, hrun', hrest⟩ | ⟨failure, hrun', rfl⟩
  case inr =>
    obtain ⟨uses', hruns, hgain3⟩ := h.run_goes _ hrun'
    rw [World.here_told, World.stage_told, hgained2.here] at hruns
    exact ⟨_, _, _, .unrun hcompiles hruns, rfl, by simpa using htold.trans hgain3⟩
  obtain ⟨uses', hruns, hgain3⟩ := h.run_goes _ hrun'
  rw [World.here_told, World.stage_told, hgained2.here] at hruns
  have hgained3 := htold.trans hgain3
  simp only [String.append_empty] at hgained3
  rw [perform_bind, perform_consult] at hrest
  cases hexpected : w3.files.expected w3.here (h.exampleOf name) with
  | error failure =>
    rw [hexpected] at hrest
    obtain ⟨rfl, rfl⟩ := Prod.mk.inj hrest
    rw [hgained3.here] at hexpected
    exact ⟨_, _, _, .uncompared hcompiles hruns hexpected, rfl, hgained3⟩
  | ok expected =>
    rw [hexpected] at hrest
    simp only [perform_bind, perform_tell _ (hgained3.unlimited hw), perform_pure,
      Prod.mk.injEq] at hrest
    obtain ⟨rfl, rfl⟩ := hrest
    rw [hgained3.here] at hexpected
    exact ⟨_, _, _, .compared hcompiles hruns hexpected, rfl,
      hgained3.told (hgained3.unlimited hw) _⟩

/-- A list of examples goes by the rules: from its first example, and on from each that does not
fail. The verdicts are added to the counts. -/
theorem verifyFrom_goes (names : List String) (counts : Summary) {w after : World σ}
    {r : Except Failure Summary} (hw : w.Unlimited)
    (hrun : (h.verifyFrom counts names).perform w = (r, after)) :
    ∃ segments text comparisons failure?,
      h.Courses w.here names w.stage segments text (comparisons, failure?) after.stage ∧
      w.Gained after segments.flatten text ∧
      r = match failure? with
        | none => .ok (comparisons.foldl (fun c x => c.record x.verdict) counts)
        | some failure => .error failure := by
  induction names generalizing counts w with
  | nil =>
    obtain ⟨rfl, rfl⟩ := Prod.mk.inj hrun
    exact ⟨_, _, _, _, .done, World.Gained.refl w, rfl⟩
  | cons name names ih =>
    rw [verifyFrom] at hrun
    rcases perform_bind_cases hrun with ⟨verdict, w1, hone, hrest⟩ | ⟨failure, hone, rfl⟩
    · obtain ⟨uses, text, result, hcourse, hresult, hgain⟩ := h.verifyOne_goes name hw hone
      cases result with
      | error failure => cases hresult
      | ok comparison =>
        obtain ⟨segments, text', comparisons, failure?, hcourses, hgain', hr⟩ :=
          ih _ (hgain.unlimited hw) hrest
        rw [hgain.here] at hcourses
        obtain rfl : verdict = comparison.verdict := Except.ok.inj hresult
        exact ⟨_, _, _, _, .next hcourse hcourses, by simpa using hgain.trans hgain', hr⟩
    · obtain ⟨uses, text, result, hcourse, hresult, hgain⟩ := h.verifyOne_goes name hw hone
      cases result with
      | ok comparison => cases hresult
      | error failure' =>
        obtain rfl : failure = failure' := Except.error.inj hresult
        exact ⟨_, _, _, _, .stop hcourse, by simpa using hgain, rfl⟩

end Harness

/-- The examples that a selection from a registry stands for. -/
def Registry.Selection.names (registry : Registry) : Registry.Selection → List String
  | .all => registry
  | .one name => [name]

namespace Harness

open Session

variable (h : Harness σ)

/-- The counts of some comparisons. -/
def countsOf (comparisons : List Comparison) : Summary :=
  comparisons.foldl (fun counts comparison => counts.record comparison.verdict) {}

variable {h} in
/-- An example that goes in some way is verified in that way. -/
theorem Course.performs {name : String} {w : World σ} {t : Stage σ} {uses : List (Use σ)}
    {text : String} {r : Except Failure Comparison} (hw : w.Unlimited)
    (hcourse : h.Course w.here name w.stage uses text r t) :
    ∃ after, (h.verifyOne name).perform w = (r.map Comparison.verdict, after) ∧
      after.stage = t ∧ w.Gained after uses text := by
  rcases hrun : (h.verifyOne name).perform w with ⟨result, after⟩
  obtain ⟨uses', text', r', hcourse', hresult, hgained⟩ := h.verifyOne_goes name hw hrun
  obtain ⟨rfl, rfl, rfl, hstage⟩ := hcourse.unique hcourse'
  exact ⟨after, by rw [hresult], hstage.symm, hgained⟩

/-- What a verification of examples results in, by how they ended. -/
def resultOf : List Comparison × Option Failure → Except Failure Summary
  | (comparisons, none) => .ok (countsOf comparisons)
  | (_, some failure) => .error failure

/-- A verification of examples goes by the rules, and its result is by how the examples ended. -/
theorem verify_goes (names : List String) {w after : World σ} {r : Except Failure Summary}
    (hw : w.Unlimited) (hrun : (h.verify names).perform w = (r, after)) :
    ∃ segments text ending, h.Courses w.here names w.stage segments text ending after.stage ∧
      w.Gained after segments.flatten text ∧ r = resultOf ending := by
  obtain ⟨segments, text, comparisons, failure?, hcourses, hgained, hr⟩ :=
    h.verifyFrom_goes names {} hw hrun
  refine ⟨segments, text, _, hcourses, hgained, ?_⟩
  rw [hr]
  cases failure? <;> rfl

variable {h} in
/-- A list of examples that goes in some way is verified in that way. -/
theorem Courses.performs {names : List String} {w : World σ} {t : Stage σ}
    {segments : List (List (Use σ))} {text : String}
    {ending : List Comparison × Option Failure} (hw : w.Unlimited)
    (hcourses : h.Courses w.here names w.stage segments text ending t) :
    ∃ after, (h.verify names).perform w = (resultOf ending, after) ∧
      after.stage = t ∧ w.Gained after segments.flatten text := by
  rcases hrun : (h.verify names).perform w with ⟨result, after⟩
  obtain ⟨segments', text', ending', hcourses', hgained, hresult⟩ := h.verify_goes names hw hrun
  obtain ⟨rfl, rfl, rfl, hstage⟩ := hcourses.unique hcourses'
  exact ⟨after, by rw [hresult], hstage.symm, hgained⟩

/-- The registry that a verification starts from, and what is selected from it. -/
def selection (w : World σ) (arg : String) : Except Failure (Registry × Registry.Selection) :=
  match Registry.discover w.files w.here h.settings.root with
  | .ok registry => (registry.select arg).map (registry, ·)
  | .error failure => .error failure

/-- The record that tells what was found. -/
def discoveryRecord (registry : Registry) : Log.Record :=
  ⟨.debug, .driver,
    "discovered " ++ toString registry.length ++ " examples: " ++ Text.quotedList registry⟩

/-- The verification of what is selected. -/
def verifySelection (registry : Registry) : Registry.Selection → Session σ Summary
  | .one name => h.verify [name]
  | .all => do
    let counts ← h.verify registry
    tell (Report.summary counts)
    pure counts

/-- A verification finds the examples, makes a record of them and verifies what is selected. -/
theorem perform_verifySelected (arg : String) (w : World σ) :
    (h.verifySelected arg).perform w =
      match Registry.discover w.files w.here h.settings.root with
      | .error failure => (.error failure, w)
      | .ok registry =>
        match registry.select arg with
        | .error failure => (.error failure, w.noted (.log (discoveryRecord registry)))
        | .ok selected =>
          (h.verifySelection registry selected).perform
            (w.noted (.log (discoveryRecord registry))) := by
  rw [verifySelected, perform_bind, perform_consult]
  cases Registry.discover w.files w.here h.settings.root with
  | error failure => rfl
  | ok registry =>
    simp only [perform_bind, perform_log, perform_consult]
    cases registry.select arg with
    | error failure => rfl
    | ok selected => cases selected <;> rfl

/-- A verification that selects nothing does nothing; any other goes by the rules for the examples
selected, and tells the counts once it has come to the end of all of them. -/
theorem verifySelected_goes (arg : String) {w after : World σ} {r : Except Failure Summary}
    (hw : w.Unlimited) (hrun : (h.verifySelected arg).perform w = (r, after)) :
    match h.selection w arg with
    | .error failure => r = .error failure ∧ after.stage = w.stage ∧ w.Gained after [] ""
    | .ok (registry, selection) =>
      ∃ segments text comparisons failure?,
        h.Courses w.here (selection.names registry) w.stage segments text
          (comparisons, failure?) after.stage ∧
        match failure? with
        | none =>
          r = .ok (countsOf comparisons) ∧
          w.Gained after segments.flatten
            (text ++ if selection = .all then Report.summary (countsOf comparisons) else "")
        | some failure => r = .error failure ∧ w.Gained after segments.flatten text := by
  rw [perform_verifySelected] at hrun
  unfold selection
  rcases hdiscover : Registry.discover w.files w.here h.settings.root with failure | registry
  · rw [hdiscover] at hrun
    obtain ⟨rfl, rfl⟩ := Prod.mk.inj hrun
    exact ⟨rfl, rfl, World.Gained.refl w⟩
  rw [hdiscover] at hrun
  dsimp only at hrun ⊢
  rcases hselect : registry.select arg with failure | selected
  · rw [hselect] at hrun
    obtain ⟨rfl, rfl⟩ := Prod.mk.inj hrun
    exact ⟨rfl, rfl, (World.Gained.refl w).record _⟩
  rw [hselect] at hrun
  dsimp only [Except.map] at hrun ⊢
  have hstart (record : Log.Record) : (w.noted (.log record)).Unlimited := hw
  cases selected with
  | one name =>
    obtain ⟨segments, text, ⟨comparisons, failure?⟩, hcourses, hgained, hr⟩ :=
      h.verify_goes [name] (hstart _) hrun
    refine ⟨segments, text, comparisons, failure?, hcourses, ?_⟩
    cases failure? with
    | none => exact ⟨hr, by simpa using hgained.of_record⟩
    | some failure => exact ⟨hr, hgained.of_record⟩
  | all =>
    rcases perform_bind_cases hrun with ⟨counts, w3, hall, hrest⟩ | ⟨failure, hall, rfl⟩
    · obtain ⟨segments, text, ⟨comparisons, failure?⟩, hcourses, hgained, hr⟩ :=
        h.verify_goes registry (hstart _) hall
      cases failure? with
      | some failure => cases hr
      | none =>
        obtain rfl : counts = countsOf comparisons := Except.ok.inj hr
        have hlimit := hgained.unlimited (hstart _)
        simp only [perform_bind, perform_tell _ hlimit, perform_pure, Prod.mk.injEq] at hrest
        obtain ⟨rfl, rfl⟩ := hrest
        exact ⟨segments, text, comparisons, none, hcourses, rfl,
          (hgained.told hlimit _).of_record⟩
    · obtain ⟨segments, text, ⟨comparisons, failure?⟩, hcourses, hgained, hr⟩ :=
        h.verify_goes registry (hstart _) hall
      cases failure? with
      | none => cases hr
      | some failure' =>
        obtain rfl : failure = failure' := Except.error.inj hr
        exact ⟨segments, text, comparisons, some failure, hcourses, rfl, hgained.of_record⟩

end Harness

/-! ## §7 A small world

Two examples, of which the second has no artifact, and tools that always write `3`. -/

namespace Sample

/-- The place of the given names, the outermost first. -/
def place (names : List String) : Location := names.reverse.map Name.text

/-- The tools that write `3`, whatever they are asked. -/
def tools : Toolchain Unit where
  execute _ files _ := { outcome := .ok ⟨some 0, "3\n", ""⟩, state := (), files }
  locate _ files program := (some (Utf8.encode ("/bin/" ++ program)), (), files)

/-- A harness over `/ex` with these tools and the settings that are the defaults. -/
def harness : Harness Unit := ⟨Settings.ofRoot ⟨"/ex"⟩, tools⟩

/-- An artifact that no build of the session has left. -/
def artifact : File := { data := [], stamp := .old }

/-- Example `a` has an artifact and expects what the tools write; example `b` is an empty
directory. -/
def files : FileSystem :=
  let directories := (FileSystem.empty.putDirectories (place ["ex", "b"])).putDirectories
    (place ["ex", "a", "bin", "Release", "net8.0"])
  (directories.put (place ["ex", "a", "bin", "Release", "net8.0", "a.dll"]) (.file artifact)).put
    (place ["ex", "a", "output.txt"]) (.file { data := Utf8.encode "3", stamp := .old })

/-- Both examples are found. -/
theorem discover_files : Registry.discover files [] ⟨"/ex"⟩ = .ok ["a", "b"] := by
  decide +kernel

/-- The world in which nothing has happened yet. -/
def world : World Unit := { here := [], files, tools := () }

end Sample

end Exemplar
