/-
Exemplar.Proofs.Builds — how a build ends is not fatal and is not seen again.

A build may fail, be ended by a signal or not start at all: what counts is the artifact that it
leaves. Two verifications whose tools differ in nothing but how builds end go on in step, whatever
the sink takes: all that differs is what is recorded.

  §1 worlds that differ in records
  §2 sessions in step
  §3 tools that differ in how builds end
  §4 the phases
  §5 a verification
  §6 builds that do not start
-/
import Exemplar.Proofs.Course

namespace Exemplar

variable {σ : Type}

/-! ## §1 Worlds that differ in records -/

/-- Whether an event is a record. -/
def Event.isRecord : Event → Bool
  | .log _ => true
  | .call _ | .locate _ | .output _ => false

namespace World

/-- What happened in a world besides records, in order. -/
def deeds (w : World σ) : List Event := w.events.filter fun event => !event.isRecord

/-- Whether two worlds are the same but for the records made in them. -/
structure SameButRecords (w w' : World σ) : Prop where
  here : w.here = w'.here
  files : w.files = w'.files
  tools : w.tools = w'.tools
  sink : w.sink = w'.sink
  deeds : w.deeds = w'.deeds

namespace SameButRecords

variable {w w' w'' : World σ}

theorem refl (w : World σ) : SameButRecords w w := ⟨rfl, rfl, rfl, rfl, rfl⟩

theorem symm (h : SameButRecords w w') : SameButRecords w' w :=
  ⟨h.here.symm, h.files.symm, h.tools.symm, h.sink.symm, h.deeds.symm⟩

theorem trans (h : SameButRecords w w') (h' : SameButRecords w' w'') : SameButRecords w w'' :=
  ⟨h.here.trans h'.here, h.files.trans h'.files, h.tools.trans h'.tools, h.sink.trans h'.sink,
    h.deeds.trans h'.deeds⟩

theorem stage (h : SameButRecords w w') : w.stage = w'.stage := by
  rw [World.stage, World.stage, h.files, h.tools]

/-- A record makes no difference. -/
theorem recorded (w : World σ) (record : Log.Record) :
    SameButRecords w (w.noted (.log record)) :=
  ⟨rfl, rfl, rfl, rfl, by simp [World.deeds, noted, Event.isRecord]⟩

theorem staged (h : SameButRecords w w') (s : Stage σ) :
    SameButRecords (w.staged s) (w'.staged s) :=
  ⟨h.here, rfl, rfl, h.sink, h.deeds⟩

theorem noted (h : SameButRecords w w') (event : Event) :
    SameButRecords (w.noted event) (w'.noted event) := by
  refine ⟨h.here, h.files, h.tools, h.sink, ?_⟩
  have hdeeds := h.deeds
  simp only [World.deeds] at hdeeds
  simp [World.deeds, World.noted, hdeeds]

/-- Answers that leave the same stage leave worlds that differ in records only. -/
theorem answered (h : SameButRecords w w') (call : Call) {answer answer' : Answer σ}
    (hstage : answer.stage = answer'.stage) :
    SameButRecords (w.answered call answer) (w'.answered call answer') := by
  have hrecords : ∀ records : List Log.Record,
      (records.map Event.log).filter (fun event => !event.isRecord) = [] := by
    intro records
    simp [Event.isRecord]
  refine ⟨h.here, congrArg Stage.files hstage, congrArg Stage.tools hstage, h.sink, ?_⟩
  have hdeeds := h.deeds
  simp only [World.deeds] at hdeeds
  simp [World.deeds, World.answered, World.staged, hdeeds, hrecords, List.filter_cons]

theorem told (h : SameButRecords w w') (bytes : Bytes) :
    SameButRecords (w.told bytes) (w'.told bytes) := by
  refine ⟨h.here, h.files, h.tools, by simp only [World.told, h.sink], ?_⟩
  have hdeeds := h.deeds
  simp only [World.deeds] at hdeeds
  simp [World.deeds, World.told, hdeeds, h.sink]

end SameButRecords

end World

/-! ## §2 Sessions in step -/

namespace Session

variable {α β γ δ : Type}

/-- Whether two results are values that are related, or the same failure. -/
def Related (R : α → β → Prop) : Except Failure α → Except Failure β → Prop
  | .ok a, .ok b => R a b
  | .error failure, .error failure' => failure = failure'
  | _, _ => False

/-- Results that are related by equality are the same. -/
theorem related_eq {r r' : Except Failure α} : Related Eq r r' ↔ r = r' := by
  cases r <;> cases r' <;> simp [Related]

/-- Two sessions that are in step: from worlds that differ in records only they come to results that
are related, and to such worlds again. -/
def InStep (R : α → β → Prop) (x : Session σ α) (y : Session σ β) : Prop :=
  ∀ w w' : World σ, w.SameButRecords w' →
    Related R (x.perform w).1 (y.perform w').1 ∧
      (x.perform w).2.SameButRecords (y.perform w').2

/-- A session that does no more than make records, and gives a value of some kind. -/
def Records (P : α → Prop) (x : Session σ α) : Prop :=
  ∀ w : World σ, ∃ a after, x.perform w = (.ok a, after) ∧ P a ∧ w.SameButRecords after

namespace Records

theorem pure {P : α → Prop} {a : α} (h : P a) : Records P (Pure.pure a : Session σ α) :=
  fun w => ⟨a, w, rfl, h, .refl w⟩

/-- A record may come first. -/
theorem log {P : α → Prop} {level : Log.Level} {source : Log.Source} {message : String}
    {f : Unit → Session σ α} (h : Records P (f ())) :
    Records P (Session.log level source message >>= f) := by
  intro w
  obtain ⟨a, after, hperform, ha, hafter⟩ := h (w.noted (.log ⟨level, source, message⟩))
  refine ⟨a, after, ?_, ha, (World.SameButRecords.recorded w _).trans hafter⟩
  rw [perform_bind, perform_log]
  exact hperform

/-- Two sessions that only make records are in step. -/
theorem inStep {P : α → Prop} {Q : β → Prop} {R : α → β → Prop} {x : Session σ α}
    {y : Session σ β} (hx : Records P x) (hy : Records Q y) (h : ∀ a b, P a → Q b → R a b) :
    InStep R x y := by
  intro w w' hw
  obtain ⟨a, after, hperform, ha, hafter⟩ := hx w
  obtain ⟨b, after', hperform', hb, hafter'⟩ := hy w'
  rw [hperform, hperform']
  exact ⟨h a b ha hb, hafter.symm.trans (hw.trans hafter')⟩

end Records

namespace InStep

variable {R : α → β → Prop}

theorem pure {a : α} {b : β} (h : R a b) :
    InStep R (Pure.pure a : Session σ α) (Pure.pure b) := fun _ _ hw => ⟨h, hw⟩

theorem throw (failure : Failure) :
    InStep R (MonadExcept.throw failure : Session σ α) (MonadExcept.throw failure) :=
  fun _ _ hw => ⟨rfl, hw⟩

/-- Sessions in step go on in step. -/
theorem bind {S : γ → δ → Prop} {x : Session σ α} {y : Session σ β} {f : α → Session σ γ}
    {g : β → Session σ δ} (h : InStep R x y) (hrest : ∀ a b, R a b → InStep S (f a) (g b)) :
    InStep S (x >>= f) (y >>= g) := by
  intro w w' hw
  obtain ⟨hresult, hafter⟩ := h w w' hw
  rw [perform_bind, perform_bind]
  rcases hx : x.perform w with ⟨_ | a, mid⟩ <;> rcases hy : y.perform w' with ⟨_ | b, mid'⟩ <;>
    rw [hx, hy] at hresult hafter
  · exact ⟨hresult, hafter⟩
  · exact hresult.elim
  · exact hresult.elim
  · exact hrest a b hresult mid mid' hafter

/-- Records may differ. -/
theorem log {level level' : Log.Level} {source source' : Log.Source} {message message' : String} :
    InStep (fun _ _ => True) (Session.log (σ := σ) level source message)
      (Session.log level' source' message') :=
  fun w w' hw => ⟨trivial, ((World.SameButRecords.recorded w _).symm.trans hw).trans
    (World.SameButRecords.recorded w' _)⟩

theorem tick : InStep Eq (Session.tick (σ := σ)) Session.tick := by
  intro w w' hw
  rw [perform_tick, perform_tick, hw.stage, hw.files]
  exact ⟨rfl, hw.staged _⟩

theorem inspect (f : FileSystem → Location → α) :
    InStep Eq (Session.inspect (σ := σ) f) (Session.inspect f) := by
  intro w w' hw
  rw [perform_inspect, perform_inspect, hw.files, hw.here]
  exact ⟨rfl, hw⟩

theorem consult (f : FileSystem → Location → Except Failure α) :
    InStep Eq (Session.consult (σ := σ) f) (Session.consult f) := by
  intro w w' hw
  rw [perform_consult, perform_consult, hw.files, hw.here]
  exact ⟨related_eq.mpr rfl, hw⟩

theorem store (path : Path) (data : Bytes) :
    InStep Eq (Session.store (σ := σ) path data) (Session.store path data) := by
  intro w w' hw
  rw [perform_store, perform_store, hw.files, hw.here, hw.tools]
  cases w'.files.write w'.here path data with
  | ok files => exact ⟨rfl, hw.staged _⟩
  | error cause => exact ⟨rfl, hw⟩

theorem tell (text : String) : InStep Eq (Session.tell (σ := σ) text) (Session.tell text) := by
  intro w w' hw
  rw [perform_tell_any, perform_tell_any, hw.sink]
  exact ⟨related_eq.mpr rfl, hw.told _⟩

end InStep

end Session

/-! ## §3 Tools that differ in how builds end -/

/-- Whether other tools do as those of a harness, but for what they answer to the builds of some
examples: how a build ends, or whether it starts. -/
structure Harness.DiffersInBuilds (h : Harness σ) (tools : Toolchain σ) (builds : String → Prop) :
    Prop where
  locate : h.tools.locate = tools.locate
  effect : ∀ (a : σ) (fs : FileSystem) (call : Call),
    (h.tools.execute a fs call).stage = (tools.execute a fs call).stage
  outcome : ∀ (a : σ) (fs : FileSystem) (call : Call),
    (∀ name, builds name → call ≠ h.buildCall (h.exampleOf name)) →
    (h.tools.execute a fs call).outcome = (tools.execute a fs call).outcome

namespace Harness

open Session

variable {h : Harness σ} {tools : Toolchain σ} {builds : String → Prop}

namespace DiffersInBuilds

variable (htools : h.DiffersInBuilds tools builds)
include htools

/-- A call is answered with the same effect, however it ends. -/
theorem attempted (call : Call) :
    InStep (fun _ _ => True) (attempt h.tools call) (attempt tools call) := by
  intro w w' hw
  rw [perform_attempt, perform_attempt, hw.stage]
  exact ⟨trivial, hw.answered call (htools.effect _ _ _)⟩

/-- A call that is no build ends the same. -/
theorem executed {call : Call}
    (hcall : ∀ name, builds name → call ≠ h.buildCall (h.exampleOf name)) :
    InStep Eq (execute h.tools call) (execute tools call) := by
  intro w w' hw
  rw [perform_execute, perform_execute, hw.stage]
  refine ⟨?_, hw.answered call (htools.effect _ _ _)⟩
  have houtcome : (w'.stage.answer h.tools call).outcome = (w'.stage.answer tools call).outcome :=
    htools.outcome _ _ _ hcall
  rw [Answer.result, Answer.result, houtcome]
  exact related_eq.mpr rfl

theorem located (program : String) :
    InStep Eq (Session.locate h.tools program) (Session.locate tools program) := by
  intro w w' hw
  have hfind : w'.stage.find h.tools program = w'.stage.find tools program := by
    unfold Stage.find
    rw [htools.locate]
  rw [perform_locate, perform_locate, hw.stage, hfind]
  exact ⟨rfl, (hw.staged _).noted _⟩

/-! ## §4 The phases -/

/-- Builds begin at the same time, however they end. -/
theorem build (ex : Example) :
    InStep (fun built built' => built.started = built'.started) (h.build ex)
      (({ h with tools } : Harness σ).build ex) := by
  unfold Harness.build
  refine .bind .log fun _ _ _ => .bind .tick fun started _ heq => ?_
  subst heq
  refine .bind (htools.attempted _) fun answer answer' _ => ?_
  -- from here on there are only records, and the value keeps the time of the beginning
  refine Records.inStep (P := fun built => built.started = started)
    (Q := fun built => built.started = started) ?_ ?_
    fun _ _ hone hother => hone.trans hother.symm
  all_goals
    split
    · dsimp only
      split
      · exact .log (.log (.pure rfl))
      · exact .pure rfl
    · exact .log (.pure rfl)

variable {names : List String}

/-- An artifact is compiled the same. -/
theorem compileArtifact {name : String}
    (hdistinct : ∀ other, builds other →
      h.compileCall (h.exampleOf name) ≠ h.buildCall (h.exampleOf other)) :
    InStep Eq (h.compileArtifact (h.exampleOf name))
      (({ h with tools } : Harness σ).compileArtifact (h.exampleOf name)) := by
  unfold Harness.compileArtifact
  refine .bind .log fun _ _ _ => .bind (htools.executed hdistinct) fun outcome _ heq => ?_
  subst heq
  split
  · exact .bind (.store _ _) fun _ _ _ => .pure rfl
  · exact .throw _

/-- Of the build the compilation sees no more than when it began. -/
theorem compile {name : String}
    (hdistinct : ∀ other, builds other →
      h.compileCall (h.exampleOf name) ≠ h.buildCall (h.exampleOf other))
    {built built' : Build} (hbuilt : built.started = built'.started) :
    InStep Eq (h.compile (h.exampleOf name) (some built))
      (({ h with tools } : Harness σ).compile (h.exampleOf name) (some built')) := by
  unfold Harness.compile
  refine .bind (.inspect _) fun artifact? _ heq => ?_
  subst heq
  cases artifact? with
  | none => exact .throw _
  | some artifact =>
    simp only [Option.any_some, hbuilt]
    split
    · exact .bind .log fun _ _ _ => htools.compileArtifact hdistinct
    · exact htools.compileArtifact hdistinct

/-- A script is run the same: it is given an input, as no build is. -/
theorem run (name : String) :
    InStep Eq (h.run (h.exampleOf name))
      (({ h with tools } : Harness σ).run (h.exampleOf name)) := by
  unfold Harness.run
  refine .bind (htools.located _) fun program? _ heq => ?_
  subst heq
  cases program? with
  | none => exact .throw _
  | some program =>
    refine .bind .log fun _ _ _ => .bind (.consult _) fun input _ heq => ?_
    subst heq
    have hcall : ∀ other, builds other →
        h.runCall (h.exampleOf name) program input ≠ h.buildCall (h.exampleOf other) := by
      intro other _ heq
      cases congrArg Call.stdin heq
    refine .bind .log fun _ _ _ => .bind (htools.executed hcall) fun outcome _ heq => ?_
    subst heq
    split
    · exact .pure rfl
    · exact .throw _

/-! ## §5 A verification -/

theorem verifyOne {name : String}
    (hdistinct : ∀ other, builds other →
      h.compileCall (h.exampleOf name) ≠ h.buildCall (h.exampleOf other)) :
    InStep Eq (h.verifyOne name) (({ h with tools } : Harness σ).verifyOne name) := by
  unfold Harness.verifyOne
  refine .bind (htools.build _) fun built built' hbuilt => .bind .log fun _ _ _ => ?_
  refine .bind (htools.compile hdistinct hbuilt) fun _ _ _ => .bind (.tell _) fun _ _ _ => ?_
  refine .bind (htools.run name) fun actual _ heq => ?_
  subst heq
  refine .bind (.consult _) fun expected _ heq => ?_
  subst heq
  exact .bind (.tell _) fun _ _ _ => .pure rfl

/-- Examples none of which is compiled by a call that is a build are verified the same. -/
theorem verifyFrom (counts : Summary)
    (hdistinct : ∀ name ∈ names, ∀ other, builds other →
      h.compileCall (h.exampleOf name) ≠ h.buildCall (h.exampleOf other)) :
    InStep Eq (h.verifyFrom counts names)
      (({ h with tools } : Harness σ).verifyFrom counts names) := by
  induction names generalizing counts with
  | nil => exact .pure rfl
  | cons name names ih =>
    refine .bind (htools.verifyOne (hdistinct name List.mem_cons_self)) fun verdict _ heq => ?_
    subst heq
    exact ih _ fun other hother => hdistinct other (List.mem_cons_of_mem _ hother)

theorem verifySelection {registry : Registry} (selected : Registry.Selection)
    (hdistinct : ∀ name ∈ selected.names registry, ∀ other, builds other →
      h.compileCall (h.exampleOf name) ≠ h.buildCall (h.exampleOf other)) :
    InStep Eq (h.verifySelection registry selected)
      (({ h with tools } : Harness σ).verifySelection registry selected) := by
  cases selected with
  | one name => exact htools.verifyFrom {} hdistinct
  | all =>
    refine .bind (htools.verifyFrom {} hdistinct) fun counts _ heq => ?_
    subst heq
    exact .bind (.tell _) fun _ _ _ => .pure rfl

end DiffersInBuilds

/-- However builds end, a verification has the same result and leaves the same world, records apart.
No example that is asked for may be compiled by a call that is a build. -/
theorem verifySelected_built (h : Harness σ) (tools : Toolchain σ) (builds : String → Prop)
    (arg : String) (w : World σ) (htools : h.DiffersInBuilds tools builds)
    (hdistinct : ∀ registry selected, h.selection w arg = .ok (registry, selected) →
      ∀ name ∈ selected.names registry, ∀ other, builds other →
        h.compileCall (h.exampleOf name) ≠ h.buildCall (h.exampleOf other)) :
    let one := (h.verifySelected arg).perform w
    let other := (({ h with tools } : Harness σ).verifySelected arg).perform w
    one.1 = other.1 ∧ one.2.SameButRecords other.2 := by
  intro one other
  have hone : one = _ := h.perform_verifySelected arg w
  have hother : other = _ := ({ h with tools } : Harness σ).perform_verifySelected arg w
  rw [hone, hother]
  cases hdiscover : Registry.discover w.files w.here h.settings.root with
  | error failure => exact ⟨rfl, .refl _⟩
  | ok registry =>
    dsimp only
    cases hselect : registry.select arg with
    | error failure => exact ⟨rfl, .refl _⟩
    | ok selected =>
      have hselection : h.selection w arg = .ok (registry, selected) := by
        simp [selection, hdiscover, hselect, Except.map]
      obtain ⟨hresult, hafter⟩ := htools.verifySelection selected
        (hdistinct registry selected hselection) _ _ (.refl _)
      exact ⟨related_eq.mp hresult, hafter⟩

end Harness

/-! ## §6 Builds that do not start -/

namespace Sample

/-- The tools of the small world, but for a build of example `a`, which they do not start. -/
def refusing : Toolchain Unit :=
  { tools with
    execute := fun state files call =>
      if call = harness.buildCall (harness.exampleOf "a") then
        { outcome := .error (.other "out of processes"), state, files }
      else tools.execute state files call }

theorem differsInBuilds_refusing : harness.DiffersInBuilds refusing (· = "a") where
  locate := rfl
  effect a fs call := by
    show Answer.stage _ = Answer.stage (if _ then _ else _)
    split <;> rfl
  outcome a fs call hcall := by
    show Answer.outcome _ = Answer.outcome (if _ then _ else _)
    rw [if_neg (hcall "a" rfl)]
    rfl

end Sample

namespace Harness

/-- In the small world the example is verified although its build does not start: it is compiled by
another call. -/
theorem verifySelected_built_sample :
    (Sample.refusing.execute () Sample.files
      (Sample.harness.buildCall (Sample.harness.exampleOf "a"))).outcome =
        .error (.other "out of processes") ∧
    let refused :=
      (({ Sample.harness with tools := Sample.refusing } : Harness Unit).verifySelected "a").perform
        Sample.world
    refused.1 = .ok ⟨1, 0, 0⟩ ∧
    ((Sample.harness.verifySelected "a").perform Sample.world).2.SameButRecords refused.2 := by
  have hdiscover : Registry.discover Sample.world.files Sample.world.here
      Sample.harness.settings.root = .ok ["a", "b"] := Sample.discover_files
  have hselect : Registry.select ["a", "b"] "a" = .ok (.one "a") := by decide +kernel
  have hone : ((Sample.harness.verifySelected "a").perform Sample.world).1 = .ok ⟨1, 0, 0⟩ := by
    rw [perform_verifySelected, hdiscover]
    dsimp only
    rw [hselect]
    decide +kernel
  have hdistinct : ∀ name other, Sample.harness.compileCall (Sample.harness.exampleOf name) ≠
      Sample.harness.buildCall (Sample.harness.exampleOf other) := by
    intro name other heq
    have hargs : some "run" = some "build" := congrArg (·.args.head?) heq
    exact absurd (Option.some.inj hargs) (by decide)
  obtain ⟨hresult, hafter⟩ := verifySelected_built Sample.harness Sample.refusing (· = "a") "a"
    Sample.world Sample.differsInBuilds_refusing fun _ _ _ name _ other _ => hdistinct name other
  exact ⟨by decide +kernel, hresult.symm.trans hone, hafter⟩

end Harness

end Exemplar
