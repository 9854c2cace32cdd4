/-
Exemplar.Proofs.Session — equations of sessions.

Carrying out a session comes down to one equation for each single action and one for `>>=`. Each
names the world that the action leaves, so that no later proof opens a session in another way.

  §1 the worlds that single actions leave
  §2 carrying sessions out
-/
import Exemplar.Session
import Mathlib.Control.Monad.Basic

namespace Exemplar

/-! ## §1 The worlds that single actions leave -/

/-- What the tools act on: their own state and the files. -/
structure Stage (σ : Type) where
  tools : σ
  files : FileSystem

/-- The stage that an answer leaves. -/
def Answer.stage {σ : Type} (answer : Answer σ) : Stage σ := ⟨answer.state, answer.files⟩

namespace Stage

variable {σ : Type} (s : Stage σ) (tools : Toolchain σ)

/-- What the tools make of a call. -/
def answer (call : Call) : Answer σ := tools.execute s.tools s.files call

/-- What the tools find when they look for a program, and the stage that this leaves. -/
def find (program : String) : Option Bytes × Stage σ :=
  let found := tools.locate s.tools s.files program
  (found.1, ⟨found.2.1, found.2.2⟩)

/-- A stage after some time has passed. -/
def ticked : Stage σ := { s with files := s.files.tick }

end Stage

namespace World

variable {σ : Type} (w : World σ)

/-- What the tools act on in a world. -/
def stage : Stage σ := ⟨w.tools, w.files⟩

/-- Whether the sink of a world never fails. -/
def Unlimited : Prop := w.sink.limit = none

/-- A world with one more event. -/
def noted (event : Event) : World σ := { w with events := w.events ++ [event] }

/-- A world with another stage. -/
def staged (s : Stage σ) : World σ := { w with files := s.files, tools := s.tools }

/-- A world after a call was answered. -/
def answered (call : Call) (answer : Answer σ) : World σ :=
  { w.staged answer.stage with events := w.events ++ .call call :: answer.records.map .log }

/-- A world in which the sink was given some bytes. -/
def told (bytes : Bytes) : World σ :=
  { w with
    sink := w.sink.take bytes
    events := w.events ++ [.output (w.sink.fitting bytes)] }

@[simp] theorem stage_noted (event : Event) : (w.noted event).stage = w.stage := rfl
@[simp] theorem stage_staged (s : Stage σ) : (w.staged s).stage = s := rfl
@[simp] theorem stage_answered (call : Call) (answer : Answer σ) :
    (w.answered call answer).stage = answer.stage := rfl
@[simp] theorem stage_told (bytes : Bytes) : (w.told bytes).stage = w.stage := rfl

@[simp] theorem files_noted (event : Event) : (w.noted event).files = w.files := rfl
@[simp] theorem files_staged (s : Stage σ) : (w.staged s).files = s.files := rfl
@[simp] theorem files_answered (call : Call) (answer : Answer σ) :
    (w.answered call answer).files = answer.files := rfl
@[simp] theorem files_told (bytes : Bytes) : (w.told bytes).files = w.files := rfl

@[simp] theorem here_noted (event : Event) : (w.noted event).here = w.here := rfl
@[simp] theorem here_staged (s : Stage σ) : (w.staged s).here = w.here := rfl
@[simp] theorem here_answered (call : Call) (answer : Answer σ) :
    (w.answered call answer).here = w.here := rfl
@[simp] theorem here_told (bytes : Bytes) : (w.told bytes).here = w.here := rfl

end World

/-- What an answer is worth where the program has to start. -/
def Answer.result {σ : Type} (answer : Answer σ) (program : String) : Except Failure Outcome :=
  match answer.outcome with
  | .ok outcome => .ok outcome
  | .error cause => .error (.spawn program cause)

namespace Session

/-! ## §2 Carrying sessions out -/

section

variable {σ α β : Type} (w : World σ)

@[simp] theorem perform_pure (a : α) : (pure a : Session σ α).perform w = (.ok a, w) := rfl

@[simp] theorem perform_throw (failure : Failure) :
    (throw failure : Session σ α).perform w = (.error failure, w) := rfl

/-- What comes second is carried out where the first one ended, unless that failed. -/
theorem perform_bind (x : Session σ α) (f : α → Session σ β) :
    (x >>= f).perform w =
      match x.perform w with
      | (.ok a, after) => (f a).perform after
      | (.error failure, after) => (.error failure, after) := by
  simp only [perform, ExceptT.run_bind, StateT.run_bind]
  show (match x.run.run w with | (a, after) => _ : Except Failure β × World σ) = _
  rcases x.run.run w with ⟨a | a, after⟩ <;> rfl

/-- Two actions one after the other end either where the second one does or where the first one
failed. -/
theorem perform_bind_cases {x : Session σ α} {f : α → Session σ β} {w after : World σ}
    {r : Except Failure β} (h : (x >>= f).perform w = (r, after)) :
    (∃ a mid, x.perform w = (.ok a, mid) ∧ (f a).perform mid = (r, after)) ∨
      ∃ failure, x.perform w = (.error failure, after) ∧ r = .error failure := by
  rw [perform_bind] at h
  split at h
  · rename_i a mid hx
    exact Or.inl ⟨a, mid, hx, h⟩
  · rename_i failure mid hx
    obtain ⟨rfl, rfl⟩ := Prod.mk.inj h
    exact Or.inr ⟨failure, hx, rfl⟩

/-! One equation for each action: its result, and the world it leaves. -/

@[simp] theorem perform_log (level : Log.Level) (source : Log.Source) (message : String) :
    (log level source message).perform w = (.ok (), w.noted (.log ⟨level, source, message⟩)) := rfl

@[simp] theorem perform_tick :
    (tick).perform w = (.ok w.files.tick.time, w.staged w.stage.ticked) := rfl

@[simp] theorem perform_inspect (f : FileSystem → Location → α) :
    (inspect f).perform w = (.ok (f w.files w.here), w) := rfl

@[simp] theorem perform_consult (f : FileSystem → Location → Except Failure α) :
    (consult f).perform w = (f w.files w.here, w) := rfl

@[simp] theorem perform_attempt (tools : Toolchain σ) (call : Call) :
    (attempt tools call).perform w =
      (.ok (w.stage.answer tools call).outcome,
        w.answered call (w.stage.answer tools call)) := rfl

@[simp] theorem perform_execute (tools : Toolchain σ) (call : Call) :
    (execute tools call).perform w =
      ((w.stage.answer tools call).result call.program,
        w.answered call (w.stage.answer tools call)) := by
  rw [execute, perform_bind, perform_attempt, Answer.result]
  cases (w.stage.answer tools call).outcome <;> rfl

@[simp] theorem perform_locate (tools : Toolchain σ) (program : String) :
    (locate tools program).perform w =
      (.ok (w.stage.find tools program).1,
        (w.staged (w.stage.find tools program).2).noted (.locate program)) := rfl

/-- Writing leaves the world alone if it fails. -/
theorem perform_store (path : Path) (data : Bytes) :
    (store path data).perform w =
      match w.files.write w.here path data with
      | .ok files => (.ok (), w.staged ⟨w.tools, files⟩)
      | .error cause => (.error (.access path cause), w) := by
  show store path data w = _
  rw [store]
  cases w.files.write w.here path data <;> rfl

/-- The sink is given a text, and it is a failure if it does not take all of it. -/
theorem perform_tell_any (text : String) :
    (tell text).perform w =
      (if w.sink.accepts (Utf8.encode text) then .ok ()
        else .error (.access ⟨"<stdout>"⟩ .sinkFull), w.told (Utf8.encode text)) := by
  show tell text w = _
  rw [tell]
  split <;> rfl

/-- A sink without a limit takes every text. -/
theorem perform_tell (h : w.Unlimited) (text : String) :
    (tell text).perform w = (.ok (), w.told (Utf8.encode text)) := by
  have hlimit : w.sink.limit = none := h
  rw [perform_tell_any, if_pos (by simp [Sink.accepts, hlimit])]

end

end Session

end Exemplar
