/-
Exemplar.Proofs.Containment — a verification stays with the examples that it found.

Whatever the argument is, it is compared with the names that were found and never becomes a part of
a path itself. All that a verification does is spelled out as a list of actions, and each of them is
for an example of the registry: the tools are called for its directory, its artifact or its script,
and no other file than its script is written. The sink may fail at any point.

  §1 actions
  §2 sessions that do no more than is allowed
  §3 what is done for an example
  §4 a verification
-/
import Exemplar.Proofs.Batch

namespace Exemplar

variable {σ : Type}

/-! ## §1 Actions -/

/-- A single thing that a session does to its world. -/
inductive Action where
  | record (record : Log.Record)
  | wait
  | call (call : Call)
  | search (program : String)
  | write (path : Path) (data : Bytes)
  | tell (text : String)

/-- A world after an action. A file that cannot be written leaves it as it is. -/
def World.act (tools : Toolchain σ) (w : World σ) : Action → World σ
  | .record record => w.noted (.log record)
  | .wait => w.staged w.stage.ticked
  | .call call => w.answered call (w.stage.answer tools call)
  | .search program => (w.staged (w.stage.find tools program).2).noted (.locate program)
  | .write path data =>
    match w.files.write w.here path data with
    | .ok files => w.staged ⟨w.tools, files⟩
    | .error _ => w
  | .tell text => w.told (Utf8.encode text)

/-! ## §2 Sessions that do no more than is allowed -/

namespace Session

variable {α β : Type} (tools : Toolchain σ) (allowed : Action → Prop)

/-- A session that does nothing but actions that are allowed. -/
def Does (x : Session σ α) : Prop :=
  ∀ w, ∃ actions : List Action, (∀ action ∈ actions, allowed action) ∧
    (x.perform w).2 = actions.foldl (World.act tools) w

variable {tools allowed}

namespace Does

/-- What leaves the world alone does nothing. -/
theorem of_eq {x : Session σ α} (h : ∀ w, (x.perform w).2 = w) : Does tools allowed x :=
  fun w => ⟨[], by simp, h w⟩

/-- What leaves the world of one action does that. -/
theorem single {x : Session σ α} {action : Action} (hallowed : allowed action)
    (h : ∀ w, (x.perform w).2 = w.act tools action) : Does tools allowed x :=
  fun w => ⟨[action], by simpa using hallowed, h w⟩

theorem pure (a : α) : Does tools allowed (Pure.pure a : Session σ α) := of_eq fun _ => rfl

/-- Two sessions one after the other do what each of them does. -/
theorem bind {x : Session σ α} {f : α → Session σ β} (hx : Does tools allowed x)
    (hf : ∀ a, Does tools allowed (f a)) : Does tools allowed (x >>= f) := by
  intro w
  obtain ⟨actions, hactions, hafter⟩ := hx w
  rw [perform_bind]
  rcases hperform : x.perform w with ⟨_ | a, mid⟩
  · exact ⟨actions, hactions, by rw [← hafter, hperform]⟩
  · rw [hperform] at hafter
    obtain ⟨more, hmore, hend⟩ := hf a mid
    refine ⟨actions ++ more, List.forall_mem_append.mpr ⟨hactions, hmore⟩, ?_⟩
    rw [List.foldl_append, ← hafter]
    exact hend

theorem mono {x : Session σ α} (hx : Does tools allowed x) {more : Action → Prop}
    (hsub : ∀ action, allowed action → more action) : Does tools more x := by
  intro w
  obtain ⟨actions, hactions, hafter⟩ := hx w
  exact ⟨actions, fun action haction => hsub action (hactions action haction), hafter⟩

theorem tell {text : String} (h : allowed (.tell text)) :
    Does tools allowed (Session.tell (σ := σ) text) :=
  single h fun w => by rw [perform_tell_any]; rfl

end Does

variable (tools allowed) in
/-- A session that is put together from single actions that are allowed, and that tells nothing. -/
inductive Quiet : {α : Type} → Session σ α → Prop
  | pure {α : Type} (a : α) : Quiet (Pure.pure a : Session σ α)
  | throw {α : Type} (failure : Failure) : Quiet (MonadExcept.throw failure : Session σ α)
  | inspect {α : Type} (f : FileSystem → Location → α) : Quiet (Session.inspect f)
  | consult {α : Type} (f : FileSystem → Location → Except Failure α) : Quiet (Session.consult f)
  | log {level : Log.Level} {source : Log.Source} {message : String}
      (h : allowed (.record ⟨level, source, message⟩)) : Quiet (Session.log level source message)
  | tick (h : allowed .wait) : Quiet Session.tick
  | attempt {call : Call} (h : allowed (.call call)) : Quiet (Session.attempt tools call)
  | locate {program : String} (h : allowed (.search program)) :
      Quiet (Session.locate tools program)
  | store {path : Path} {data : Bytes} (h : allowed (.write path data)) :
      Quiet (Session.store path data)
  | bind {α β : Type} {x : Session σ α} {f : α → Session σ β} (hx : Quiet x)
      (hf : ∀ a, Quiet (f a)) : Quiet (x >>= f)

namespace Quiet

theorem execute {call : Call} (h : allowed (.call call)) :
    Quiet tools allowed (Session.execute tools call) := by
  refine .bind (.attempt h) fun answer => ?_
  cases answer with
  | ok outcome => exact .pure outcome
  | error cause => exact .throw _

/-- A quiet session does no more than is allowed. -/
theorem does {x : Session σ α} (hx : Quiet tools allowed x) : Does tools allowed x := by
  induction hx with
  | pure a => exact .pure a
  | throw failure => exact .of_eq fun _ => rfl
  | inspect f => exact .of_eq fun _ => rfl
  | consult f => exact .of_eq fun _ => rfl
  | log h => exact .single h fun _ => rfl
  | tick h => exact .single h fun _ => rfl
  | attempt h => exact .single h fun _ => rfl
  | locate h => exact .single h fun _ => rfl
  | @store path data h =>
    refine .single h fun w => ?_
    rw [perform_store, World.act]
    cases w.files.write w.here path data <;> rfl
  | bind _ _ ihx ihf => exact .bind ihx ihf

end Quiet

end Session

/-! ## §3 What is done for an example -/

namespace Harness

open Session

variable (h : Harness σ) (name : String)

/-- What may be done for an example: the three calls for it, with the search before the last one,
and writing its script. -/
inductive ActsFor : Action → Prop
  | record (record : Log.Record) : ActsFor (.record record)
  | wait : ActsFor .wait
  | build : ActsFor (.call (h.buildCall (h.exampleOf name)))
  | compile : ActsFor (.call (h.compileCall (h.exampleOf name)))
  | search : ActsFor (.search h.settings.runtime.program)
  | run (program : Bytes) (input : String) :
      ActsFor (.call (h.runCall (h.exampleOf name) program input))
  | write (data : Bytes) : ActsFor (.write (h.exampleOf name).script data)
  | tell (text : String) : ActsFor (.tell text)

theorem build_quiet : Quiet h.tools (h.ActsFor name) (h.build (h.exampleOf name)) := by
  unfold build
  refine .bind (.log (.record _)) fun _ => .bind (.tick .wait) fun started => ?_
  refine .bind (.attempt .build) fun answer => ?_
  cases answer with
  | ok outcome =>
    dsimp only
    split
    · exact .bind (.log (.record _)) fun _ => .bind (.log (.record _)) fun _ => .pure _
    · exact .pure _
  | error cause => exact .bind (.log (.record _)) fun _ => .pure _

theorem compileArtifact_quiet :
    Quiet h.tools (h.ActsFor name) (h.compileArtifact (h.exampleOf name)) := by
  unfold compileArtifact
  refine .bind (.log (.record _)) fun _ => .bind (.execute .compile) fun outcome => ?_
  split
  · exact .bind (.store (.write _)) fun _ => .pure _
  · exact .throw _

theorem compile_quiet (built : Option Build) :
    Quiet h.tools (h.ActsFor name) (h.compile (h.exampleOf name) built) := by
  unfold compile
  refine .bind (.inspect _) fun artifact? => ?_
  cases artifact? with
  | none => exact .throw _
  | some artifact =>
    dsimp only
    split
    · exact .bind (.log (.record _)) fun _ => h.compileArtifact_quiet name
    · exact h.compileArtifact_quiet name

theorem run_quiet : Quiet h.tools (h.ActsFor name) (h.run (h.exampleOf name)) := by
  unfold run
  refine .bind (.locate .search) fun program? => ?_
  cases program? with
  | none => exact .throw _
  | some program =>
    refine .bind (.log (.record _)) fun _ => .bind (.consult _) fun input => ?_
    refine .bind (.log (.record _)) fun _ => .bind (.execute (.run _ _)) fun outcome => ?_
    split
    · exact .pure _
    · exact .throw _

theorem verifyOne_does : Does h.tools (h.ActsFor name) (h.verifyOne name) := by
  unfold verifyOne
  refine .bind (h.build_quiet name).does fun built => .bind (Quiet.log (.record _)).does fun _ => ?_
  refine .bind (h.compile_quiet name _).does fun _ => .bind (.tell (.tell _)) fun _ => ?_
  refine .bind (h.run_quiet name).does fun actual => .bind (Quiet.consult _).does fun expected => ?_
  exact .bind (.tell (.tell _)) fun _ => .pure _

/-! ## §4 A verification -/

/-- Whether an action stays with some examples. A call is one of the three for an example, and its
last argument is the directory, the artifact or the script of the example; a file that is written is
the script. -/
def StaysWith (h : Harness σ) (names : List String) : Action → Prop
  | .call call => ∃ name ∈ names,
      (call = h.buildCall (h.exampleOf name) ∧
        call.args.getLast? = some (h.settings.root / name).text) ∨
      (call = h.compileCall (h.exampleOf name) ∧
        call.args.getLast? = some (h.exampleOf name).artifact.text) ∨
      ∃ program input, call = h.runCall (h.exampleOf name) program input ∧
        call.args.getLast? = some (h.settings.root / name / (name ++ ".lua")).text
  | .search program => program = h.settings.runtime.program
  | .write path _ => ∃ name ∈ names, path = h.settings.root / name / (name ++ ".lua")
  | .record _ | .wait | .tell _ => True

variable {h name}

/-- What is done for an example stays with it. -/
theorem ActsFor.staysWith {names : List String} (hname : name ∈ names) {action : Action}
    (hacts : h.ActsFor name action) : h.StaysWith names action := by
  cases hacts with
  | record | wait | tell => trivial
  | search => rfl
  | build => exact ⟨name, hname, Or.inl ⟨rfl,
      Command.getLast?_argsWith _ ["-c", h.settings.profile] _⟩⟩
  | compile => exact ⟨name, hname, Or.inr (Or.inl ⟨rfl, Command.getLast?_argsWith _ [] _⟩)⟩
  | run program input =>
    exact ⟨name, hname, Or.inr (Or.inr ⟨program, input, rfl, Command.getLast?_argsWith _ [] _⟩)⟩
  | write data => exact ⟨name, hname, rfl⟩

variable (h)

theorem verifyFrom_does (names : List String) (counts : Summary) :
    Does h.tools (h.StaysWith names) (h.verifyFrom counts names) := by
  suffices hall : ∀ others, (∀ name ∈ others, name ∈ names) → ∀ counts,
      Does h.tools (h.StaysWith names) (h.verifyFrom counts others) from
    hall names (fun _ hname => hname) counts
  intro others
  induction others with
  | nil => exact fun _ _ => .pure _
  | cons name others ih =>
    intro hothers counts
    refine .bind ((h.verifyOne_does name).mono fun _ => ActsFor.staysWith ?_) fun verdict => ?_
    · exact hothers name List.mem_cons_self
    · exact ih (fun other hother => hothers other (List.mem_cons_of_mem _ hother)) _

theorem verifySelection_does (registry : Registry) (selected : Registry.Selection) :
    Does h.tools (h.StaysWith (selected.names registry)) (h.verifySelection registry selected) := by
  cases selected with
  | one name => exact h.verifyFrom_does [name] {}
  | all =>
    refine .bind (h.verifyFrom_does registry {}) fun counts => ?_
    exact .bind (.tell trivial) fun _ => .pure _

end Harness

/-- An argument selects all examples, or one of the registry that its normal form names. -/
theorem Registry.of_select {registry : Registry} {arg : String} {selected : Registry.Selection}
    (hselect : registry.select arg = .ok selected) :
    (selected = .all ∨ selected = .one (normalForm arg)) ∧
      ∀ name ∈ selected.names registry, name ∈ registry := by
  cases selected with
  | all => exact ⟨Or.inl rfl, fun _ hname => hname⟩
  | one name =>
    obtain ⟨rfl, -, hmem⟩ := select_eq_one.mp hselect
    refine ⟨Or.inr rfl, fun other hother => ?_⟩
    obtain rfl := List.mem_singleton.mp hother
    exact hmem

namespace Harness

/-- What is said of a verification that was asked for by an argument, ended in a result and left a
world. If the examples cannot be found or the argument selects none of them, no tool is used,
nothing is told and the files stay as they are. Otherwise it selects all examples of the registry or
the one that its normal form names; each name is one component, and all that is done stays with the
examples selected. -/
def Contained (h : Harness σ) (arg : String) (w : World σ) (result : Except Failure Summary)
    (after : World σ) : Prop :=
  match h.selection w arg with
  | .error failure =>
    result = .error failure ∧ after.uses = w.uses ∧ after.sink = w.sink ∧ after.stage = w.stage
  | .ok (registry, selected) =>
    Registry.discover w.files w.here h.settings.root = .ok registry ∧
    (selected = .all ∨ selected = .one (Registry.normalForm arg)) ∧
    (∀ name ∈ selected.names registry, name ∈ registry ∧ Path.isComponent name = true) ∧
    ∃ actions : List Action, (∀ action ∈ actions, h.StaysWith (selected.names registry) action) ∧
      after = actions.foldl (World.act h.tools) w

/-- Whatever is asked for, a verification stays with examples that it found. -/
theorem verifySelected_contained (h : Harness σ) (arg : String) (w : World σ)
    (hfiles : w.files.WellNamed) :
    h.Contained arg w ((h.verifySelected arg).perform w).1
      ((h.verifySelected arg).perform w).2 := by
  unfold Contained selection
  rw [perform_verifySelected]
  cases hdiscover : Registry.discover w.files w.here h.settings.root with
  | error failure => exact ⟨rfl, rfl, rfl, rfl⟩
  | ok registry =>
    dsimp only
    cases hselect : registry.select arg with
    | error failure => exact ⟨rfl, by simp [World.uses, World.noted, Event.isUse], rfl, rfl⟩
    | ok selected =>
      obtain ⟨hform, hmem⟩ := Registry.of_select hselect
      obtain ⟨-, location, hentries⟩ := Registry.of_discover hdiscover
      refine ⟨rfl, hform, fun name hname => ⟨hmem name hname, ?_⟩, ?_⟩
      · exact hfiles name location (hentries name (hmem name hname)).1
      · obtain ⟨actions, hactions, hafter⟩ := h.verifySelection_does registry selected
          (w.noted (.log (discoveryRecord registry)))
        exact ⟨.record _ :: actions, List.forall_mem_cons.mpr ⟨trivial, hactions⟩, hafter⟩

/-- In the small world an argument that would lead elsewhere selects nothing, and one that names an
example, blanks and case apart, selects that. -/
theorem verifySelected_contained_sample :
    Sample.harness.selection Sample.world "../ex/a" =
      .error (.unknownExample "../ex/a" ["a", "b"]) ∧
    Sample.harness.Contained "../ex/a" Sample.world
      ((Sample.harness.verifySelected "../ex/a").perform Sample.world).1
      ((Sample.harness.verifySelected "../ex/a").perform Sample.world).2 ∧
    Sample.harness.selection Sample.world " A " = .ok (["a", "b"], .one "a") ∧
    Sample.harness.Contained " A " Sample.world
      ((Sample.harness.verifySelected " A ").perform Sample.world).1
      ((Sample.harness.verifySelected " A ").perform Sample.world).2 := by
  have hselection (arg : String) : Sample.harness.selection Sample.world arg =
      (Registry.select ["a", "b"] arg).map (["a", "b"], ·) := by
    have hdiscover : Registry.discover Sample.world.files Sample.world.here
        Sample.harness.settings.root = .ok ["a", "b"] := Sample.discover_files
    rw [selection, hdiscover]
  have hother : Registry.select ["a", "b"] "../ex/a" =
      .error (.unknownExample "../ex/a" ["a", "b"]) := by decide +kernel
  have hone : Registry.select ["a", "b"] " A " = .ok (.one "a") := by decide +kernel
  refine ⟨by rw [hselection, hother]; rfl, ?_, by rw [hselection, hone]; rfl, ?_⟩
  · exact verifySelected_contained Sample.harness "../ex/a" Sample.world Sample.wellNamed_files
  · exact verifySelected_contained Sample.harness " A " Sample.world Sample.wellNamed_files

end Harness

end Exemplar
