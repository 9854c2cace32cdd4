/-
Exemplar.Proofs.Exchange — an exchange does not get stuck, and loses nothing.

Whatever the program does and whoever's turn it is, somebody can move until all have ended. What the
program reads is the input from its start on, it is told of the end only after all of it, and what
is collected in the end is what it wrote. One byte of room in each channel is enough.

  §1 the steps of an exchange
  §2 the input on its way
  §3 the outputs on their way
  §4 room and ends
  §5 somebody can move
  §6 exchanges
-/
import Exemplar.Exchange
import Mathlib.Data.List.Basic

namespace Exemplar.Exchange

variable {σ : Type} {program : Program σ} {s t first : State σ} {o output : Output}

/-! ## §1 The steps of an exchange -/

@[simp] theorem Output.set_same {α : Type} (value : α) (values : Output → α) :
    output.set value values output = value := if_pos rfl

theorem Output.set_of_ne {α : Type} (h : o ≠ output) (value : α) (values : Output → α) :
    output.set value values o = values o := if_neg h

/-- What is true of the new value and of all old ones is true of all values. -/
theorem Output.forall_set {α : Type} {P : α → Prop} {value : α} {values : Output → α}
    (hvalue : P value) (hvalues : ∀ o, P (values o)) (o : Output) :
    P (output.set value values o) := by
  by_cases ho : o = output
  · subst ho
    rwa [Output.set_same]
  · rw [Output.set_of_ne ho]
    exact hvalues o

/-- A reader finds the end of a channel that holds nothing and to which nobody can write. -/
theorem Channel.atEnd_iff {channel : Channel} :
    channel.atEnd = true ↔ channel.held = [] ∧ channel.writable = false := by
  simp [Channel.atEnd]

/-- All that can happen in an exchange when it is someone's turn. -/
inductive Step (program : Program σ) (s : State σ) : State σ → Prop
  /-- The feeder writes some of the input. -/
  | feed {data : Bytes} {more : Nat} (hfeeder : s.feeder = some data)
      (hopen : s.input.readable = true) :
      Step program s { s with
        feeder := some (data.drop (more + 1))
        input := s.input.put (data.take (more + 1)) }
  /-- The feeder ends, and closes its end of the input. -/
  | endFeeding {data : Bytes} (hfeeder : s.feeder = some data)
      (hdone : data = [] ∨ s.input.readable = false) :
      Step program s { s with feeder := none, input := s.input.closeWriting }
  /-- The program goes on without using a channel, or with one that it has closed itself. -/
  | think (next : σ) : Step program s { s with program := some next }
  /-- The program is told of the end of its input. -/
  | readEnd (next : σ) (hopen : s.input.readable = true) (hend : s.input.atEnd = true) :
      Step program s { s with program := some next, sawEnd := true }
  /-- The program reads some of its input. -/
  | read (next : σ) {more : Nat} (hheld : more < s.input.held.length) :
      Step program s { s with
        program := some next
        input := s.input.drop (more + 1)
        consumed := s.consumed ++ s.input.held.take (more + 1) }
  /-- The program writes some bytes. -/
  | write (next : σ) (output : Output) (bytes : Bytes)
      (hopen : (s.output output).writable = true) :
      Step program s { s with
        program := some next
        output := output.set ((s.output output).put bytes) s.output
        written := output.set (s.written output ++ bytes) s.written }
  | closeInput (next : σ) :
      Step program s { s with program := some next, input := s.input.closeReading }
  | closeOutput (next : σ) (output : Output) :
      Step program s { s with
        program := some next
        output := output.set (s.output output).closeWriting s.output }
  | exit :
      Step program s { s with
        program := none
        input := s.input.closeReading
        output := fun o => (s.output o).closeWriting }
  /-- The collector takes what an output holds. -/
  | collect (output : Output) {more : Nat} (hheld : more < (s.output output).held.length) :
      Step program s { s with
        output := output.set ((s.output output).drop (more + 1)) s.output
        collected := output.set
          (s.collected output ++ (s.output output).held.take (more + 1)) s.collected }
  /-- The collector finds the end of an output. -/
  | endCollecting (output : Output) (hend : (s.output output).atEnd = true) :
      Step program s { s with finished := output.set true s.finished }

/-- What a program does when it is its turn is a step. -/
theorem step_of_act {more : Nat} {intent : Intent σ} (hact : act s more intent = some t) :
    Step program s t := by
  cases intent with
  | read most next =>
    simp only [act] at hact
    split at hact
    · exact Option.some.inj hact ▸ .think _
    rename_i hopen
    split at hact
    · rename_i hend
      exact Option.some.inj hact ▸ .readEnd _ (by simpa using hopen) hend
    split at hact
    · rename_i hmore
      rw [Bool.and_eq_true, decide_eq_true_eq, decide_eq_true_eq] at hmore
      exact Option.some.inj hact ▸ .read _ hmore.2
    · cases hact
  | write output data next =>
    simp only [act] at hact
    split at hact
    · exact Option.some.inj hact ▸ .think _
    rename_i hopen
    split at hact
    · exact Option.some.inj hact ▸ .think _
    split at hact
    · exact Option.some.inj hact ▸ .write _ output _ (by simpa using hopen)
    · cases hact
  | closeInput next => exact Option.some.inj hact ▸ .closeInput next
  | closeOutput output next => exact Option.some.inj hact ▸ .closeOutput next output
  | think next => exact Option.some.inj hact ▸ .think next
  | exit => exact Option.some.inj hact ▸ .exit

/-- Every move is a step. -/
theorem step_of_move {m : Move} (hmove : move program s m = some t) : Step program s t := by
  unfold move at hmove
  cases m with
  | feed more =>
    dsimp only at hmove
    cases hfeeder : s.feeder with
    | none => simp [hfeeder] at hmove
    | some data =>
      rw [hfeeder] at hmove
      dsimp only at hmove
      split at hmove
      · rename_i hopen
        rw [Bool.and_eq_true, Bool.and_eq_true] at hopen
        exact Option.some.inj hmove ▸ .feed hfeeder hopen.1.1
      · cases hmove
  | endFeeding =>
    dsimp only at hmove
    cases hfeeder : s.feeder with
    | none => simp [hfeeder] at hmove
    | some data =>
      rw [hfeeder] at hmove
      dsimp only at hmove
      split at hmove
      · rename_i hdone
        exact Option.some.inj hmove ▸ .endFeeding hfeeder (by simpa using hdone)
      · cases hmove
  | act more =>
    dsimp only at hmove
    cases hprogram : s.program with
    | none => simp [hprogram] at hmove
    | some state =>
      rw [hprogram] at hmove
      exact step_of_act hmove
  | collect output more =>
    dsimp only at hmove
    split at hmove
    · rename_i hheld
      exact Option.some.inj hmove ▸ .collect output hheld
    · cases hmove
  | endCollecting output =>
    dsimp only at hmove
    split at hmove
    · rename_i hend
      rw [Bool.and_eq_true] at hend
      exact Option.some.inj hmove ▸ .endCollecting output hend.1
    · cases hmove

/-- What holds at the start and is kept by every step holds in every state that can be reached. -/
theorem Reachable.keeps {P : State σ → Prop} (hreach : Reachable program first s)
    (hstart : P first) (hstep : ∀ s t, P s → Step program s t → P t) : P s := by
  induction hreach with
  | start => exact hstart
  | next m _ hmove ih => exact hstep _ _ ih (step_of_move hmove)

/-! ## §2 The input on its way -/

/-- Where the input is: what the program has read and what the channel holds are its beginning, and
as long as the program can read, the rest is still to be written. -/
structure InputFlows (stdin : Bytes) (s : State σ) : Prop where
  begun : s.consumed ++ s.input.held <+: stdin
  whole : s.input.readable = true → s.consumed ++ s.input.held ++ s.feeder.getD [] = stdin
  writable : s.input.writable = s.feeder.isSome
  ended : s.sawEnd = true → s.consumed = stdin

/-- A program that was told of the end of its input finds nothing more in it. -/
theorem InputFlows.held_eq_nil {stdin : Bytes} (h : InputFlows stdin s) (hsaw : s.sawEnd = true) :
    s.input.held = [] := by
  have hlength := h.begun.length_le
  rw [h.ended hsaw, List.length_append] at hlength
  exact List.eq_nil_of_length_eq_zero (by omega)

/-- Every step keeps the input on its way. -/
theorem InputFlows.step {stdin : Bytes} (h : InputFlows stdin s) (hstep : Step program s t) :
    InputFlows stdin t := by
  cases hstep with
  | @feed data more hfeeder hopen =>
    have hwhole : s.consumed ++ (s.input.held ++ data.take (more + 1)) ++ data.drop (more + 1) =
        stdin := by
      rw [List.append_assoc, List.append_assoc, List.take_append_drop, ← List.append_assoc,
        ← h.whole hopen, hfeeder]
      rfl
    exact { h with
      begun := ⟨_, hwhole⟩
      whole := fun _ => hwhole
      writable := by
        have hwritable := h.writable
        rw [hfeeder] at hwritable
        exact hwritable }
  | @endFeeding data hfeeder hdone =>
    refine { h with whole := fun hopen => ?_, writable := rfl }
    rcases hdone with rfl | hclosed
    · have hwhole := h.whole hopen
      rw [hfeeder] at hwhole
      exact hwhole
    · cases hclosed.symm.trans hopen
  | think next => exact { h with }
  | readEnd next hopen hend =>
    refine { h with ended := fun _ => ?_ }
    -- nothing is held, and the feeder has ended
    obtain ⟨hheld, hwritable⟩ := Channel.atEnd_iff.mp hend
    have hfeeder : s.feeder = none := by simpa [hwritable] using h.writable.symm
    simpa [hheld, hfeeder] using h.whole hopen
  | @read next more hheld =>
    have hsame : s.consumed ++ s.input.held.take (more + 1) ++ s.input.held.drop (more + 1) =
        s.consumed ++ s.input.held := by
      rw [List.append_assoc, List.take_append_drop]
    refine ⟨hsame ▸ h.begun, fun hopen => ?_, h.writable, fun hsaw => ?_⟩
    · exact (congrArg (· ++ s.feeder.getD []) hsame).trans (h.whole hopen)
    · simp [h.held_eq_nil hsaw] at hheld
  | write next output bytes hopen => exact { h with }
  | closeInput next => exact { h with whole := fun hopen => by cases hopen }
  | closeOutput next output => exact { h with }
  | exit => exact { h with whole := fun hopen => by cases hopen }
  | collect output hheld => exact { h with }
  | endCollecting output hend => exact { h with }

/-! ## §3 The outputs on their way -/

/-- Where an output is: what was collected and what the channel holds are all that was written. -/
structure OutputFlows (o : Output) (s : State σ) : Prop where
  whole : s.collected o ++ (s.output o).held = s.written o
  ended : s.finished o = true → (s.output o).atEnd = true

/-- Every step keeps the outputs on their way. -/
theorem OutputFlows.step (h : OutputFlows o s) (hstep : Step program s t) : OutputFlows o t := by
  cases hstep with
  | feed hfeeder hopen => exact { h with }
  | endFeeding hfeeder hdone => exact { h with }
  | think next => exact { h with }
  | readEnd next hopen hend => exact { h with }
  | read next hheld => exact { h with }
  | write next output bytes hopen =>
    by_cases ho : o = output
    · subst ho
      refine ⟨?_, fun hfinished => ?_⟩
      · simp [Channel.put, ← List.append_assoc, h.whole]
      · -- an output whose end was found cannot be written to
        obtain ⟨-, hclosed⟩ := Channel.atEnd_iff.mp (h.ended hfinished)
        cases hclosed.symm.trans hopen
    · exact ⟨by simpa [Output.set_of_ne ho] using h.whole,
        by simpa [Output.set_of_ne ho] using h.ended⟩
  | closeInput next => exact { h with }
  | closeOutput next output =>
    by_cases ho : o = output
    · subst ho
      refine ⟨by simpa [Channel.closeWriting] using h.whole, fun hfinished => ?_⟩
      dsimp only
      rw [Output.set_same]
      exact Channel.atEnd_iff.mpr ⟨(Channel.atEnd_iff.mp (h.ended hfinished)).1, rfl⟩
    · exact ⟨by simpa [Output.set_of_ne ho] using h.whole,
        by simpa [Output.set_of_ne ho] using h.ended⟩
  | exit =>
    exact ⟨h.whole, fun hfinished =>
      Channel.atEnd_iff.mpr ⟨(Channel.atEnd_iff.mp (h.ended hfinished)).1, rfl⟩⟩
  | @collect output more hheld =>
    by_cases ho : o = output
    · subst ho
      refine ⟨?_, fun hfinished => ?_⟩
      · simpa [Channel.drop] using h.whole
      · -- an output whose end was found holds nothing
        rw [(Channel.atEnd_iff.mp (h.ended hfinished)).1] at hheld
        cases hheld
    · exact ⟨by simpa [Output.set_of_ne ho] using h.whole,
        by simpa [Output.set_of_ne ho] using h.ended⟩
  | endCollecting output hend =>
    by_cases ho : o = output
    · subst ho
      exact ⟨h.whole, fun _ => hend⟩
    · exact ⟨h.whole, by simpa [Output.set_of_ne ho] using h.ended⟩

/-! ## §4 Room and ends -/

/-- What else the states of an exchange have in common: each channel has room for one byte when it is
empty, and a program that has ended holds no end of a channel open. -/
structure Settled (s : State σ) : Prop where
  inputRoom : 0 < s.input.capacity
  outputRoom : ∀ o, 0 < (s.output o).capacity
  exited : s.program = none →
    s.input.readable = false ∧ ∀ o, (s.output o).writable = false

/-- A channel that replaces an output and has as much room leaves room in all. -/
theorem Settled.room_set (h : Settled s) {channel : Channel}
    (hroom : channel.capacity = (s.output output).capacity) :
    ∀ o, 0 < (output.set channel s.output o).capacity :=
  Output.forall_set (P := fun channel : Channel => 0 < channel.capacity)
    (hroom ▸ h.outputRoom output) h.outputRoom

/-- Every step leaves room, and the channels that an ended program has closed. -/
theorem Settled.step (h : Settled s) (hstep : Step program s t) : Settled t := by
  cases hstep with
  | feed hfeeder hopen => exact { h with }
  | endFeeding hfeeder hdone => exact { h with }
  | think next => exact { h with exited := nofun }
  | readEnd next hopen hend => exact { h with exited := nofun }
  | read next hheld => exact { h with exited := nofun }
  | write next output bytes hopen =>
    exact { h with outputRoom := h.room_set rfl, exited := nofun }
  | closeInput next => exact { h with exited := nofun }
  | closeOutput next output => exact { h with outputRoom := h.room_set rfl, exited := nofun }
  | exit => exact ⟨h.inputRoom, h.outputRoom, fun _ => ⟨rfl, fun _ => rfl⟩⟩
  | @collect output more hheld =>
    refine ⟨h.inputRoom, h.room_set rfl, fun hprogram => ?_⟩
    obtain ⟨hinput, houtput⟩ := h.exited hprogram
    exact ⟨hinput, Output.forall_set (P := fun channel : Channel => channel.writable = false)
      (houtput output) houtput⟩
  | endCollecting output hend => exact { h with }

/-! ## §5 Somebody can move -/

/-- Whether some party can move. -/
def CanMove (program : Program σ) (s : State σ) : Prop := ∃ m, (move program s m).isSome

/-- Of an output that holds something, the collector can take it. -/
theorem canMove_collect (output : Output) (hheld : (s.output output).held ≠ []) :
    CanMove program s := by
  have hlength : 0 < (s.output output).held.length := List.length_pos_iff.mpr hheld
  exact ⟨.collect output 0, by simp [move, hlength]⟩

/-- A feeder that finds an empty channel can write, or has nothing left and can end. -/
theorem canMove_feeder {data : Bytes} (hfeeder : s.feeder = some data)
    (hroom : s.input.hasRoom 1 = true) : CanMove program s := by
  by_cases hdone : data = [] ∨ s.input.readable = false
  · refine ⟨.endFeeding, ?_⟩
    rcases hdone with rfl | hclosed <;> simp [move, *]
  · rw [not_or, Bool.not_eq_false] at hdone
    have hlength : 0 < data.length := List.length_pos_iff.mpr hdone.1
    exact ⟨.feed 0, by simp [move, hfeeder, hdone.2, hlength, hroom]⟩

/-- A program that has not ended can go on, or somebody else can. -/
theorem canMove_of_program {stdin : Bytes} (hinput : InputFlows stdin s) (hsettled : Settled s)
    {state : σ} (hprogram : s.program = some state) : CanMove program s := by
  cases hintent : program state with
  | read most next =>
    by_cases hopen : s.input.readable = true
    swap
    · exact ⟨.act 0, by simp [move, hprogram, hintent, act, hopen]⟩
    by_cases hheld : s.input.held = []
    · cases hfeeder : s.feeder with
      | none =>
        -- nothing can come any more: the program is told of the end
        have hend : s.input.atEnd = true :=
          Channel.atEnd_iff.mpr ⟨hheld, by rw [hinput.writable, hfeeder]; rfl⟩
        exact ⟨.act 0, by simp [move, hprogram, hintent, act, hopen, hend]⟩
      | some data =>
        refine canMove_feeder hfeeder ?_
        have := hsettled.inputRoom
        simp only [Channel.hasRoom, hheld, List.length_nil, decide_eq_true_eq]
        omega
    · have hlength : 0 < s.input.held.length := List.length_pos_iff.mpr hheld
      have hend : s.input.atEnd = false := by simp [Channel.atEnd, hheld]
      exact ⟨.act 0, by simp [move, hprogram, hintent, act, hopen, hend, hlength]⟩
  | write output data next =>
    by_cases hopen : (s.output output).writable = true
    swap
    · exact ⟨.act 0, by simp [move, hprogram, hintent, act, hopen]⟩
    by_cases hdata : data = []
    · exact ⟨.act 0, by simp [move, hprogram, hintent, act, hopen, hdata]⟩
    have hlength : 0 < data.length := List.length_pos_iff.mpr hdata
    by_cases hroom : (s.output output).hasRoom 1 = true
    · exact ⟨.act 0, by simp [move, hprogram, hintent, act, hopen, hdata, hlength, hroom]⟩
    · -- a full channel holds something that the collector can take
      refine canMove_collect output fun hheld => hroom ?_
      have := hsettled.outputRoom output
      simp only [Channel.hasRoom, hheld, List.length_nil, decide_eq_true_eq]
      omega
  | closeInput next => exact ⟨.act 0, by simp [move, hprogram, hintent, act]⟩
  | closeOutput output next => exact ⟨.act 0, by simp [move, hprogram, hintent, act]⟩
  | think next => exact ⟨.act 0, by simp [move, hprogram, hintent, act]⟩
  | exit => exact ⟨.act 0, by simp [move, hprogram, hintent, act]⟩

/-- Once the program has ended, the feeder can end, and the collector can until it has found the end
of both outputs. -/
theorem canMove_of_exited (hsettled : Settled s) (hprogram : s.program = none)
    (hover : s.isOver = false) : CanMove program s := by
  obtain ⟨hinput, houtput⟩ := hsettled.exited hprogram
  cases hfeeder : s.feeder with
  | some data => exact ⟨.endFeeding, by simp [move, hfeeder, hinput]⟩
  | none =>
    have hunfinished : ∃ output, s.finished output = false := by
      by_cases hout : s.finished .out = true
      · exact ⟨.err, by simpa [State.isOver, hfeeder, hprogram, hout] using hover⟩
      · exact ⟨.out, by simpa using hout⟩
    obtain ⟨output, hfinished⟩ := hunfinished
    by_cases hheld : (s.output output).held = []
    · have hend : (s.output output).atEnd = true :=
        Channel.atEnd_iff.mpr ⟨hheld, houtput output⟩
      exact ⟨.endCollecting output, by simp [move, hend, hfinished]⟩
    · exact canMove_collect output hheld

/-! ## §6 Exchanges -/

/-- What is said of a state of an exchange that was given an input: until all have ended, somebody
can move; what the program has read is a beginning of the input, and all of it once the program was
told of the end; what was collected from each output is a beginning of what was written to it, and
all of it at the end. -/
structure Lossless (program : Program σ) (stdin : Bytes) (s : State σ) : Prop where
  moves : s.isOver = false → ¬ Stuck program s
  read : s.consumed <+: stdin
  ended : s.sawEnd = true → s.consumed = stdin
  collected : ∀ o, s.collected o <+: s.written o
  whole : s.isOver = true → ∀ o, s.collected o = s.written o

/-- An exchange that starts with room for one byte in each channel does not get stuck before its end
and loses nothing, whatever the program does and whoever's turn it is. -/
theorem reachable_lossless (program : Program σ) (stdin : Option Bytes) (initial : σ)
    (inputCapacity : Nat) (outputCapacity : Output → Nat) (hinput : 0 < inputCapacity)
    (houtput : ∀ o, 0 < outputCapacity o) {s : State σ}
    (hreach : Reachable program (start stdin initial inputCapacity outputCapacity) s) :
    Lossless program (stdin.getD []) s := by
  have hflows : InputFlows (stdin.getD []) s :=
    hreach.keeps ⟨List.nil_prefix, fun _ => rfl, rfl, nofun⟩ fun _ _ h hstep => h.step hstep
  have houtputs (o : Output) : OutputFlows o s :=
    hreach.keeps ⟨rfl, nofun⟩ fun _ _ h hstep => h.step hstep
  have hsettled : Settled s :=
    hreach.keeps ⟨hinput, houtput, nofun⟩ fun _ _ h hstep => h.step hstep
  refine ⟨fun hover hstuck => ?_, ?_, hflows.ended, fun o => ?_, fun hover o => ?_⟩
  · have hcan : CanMove program s := by
      cases hprogram : s.program with
      | some state => exact canMove_of_program hflows hsettled hprogram
      | none => exact canMove_of_exited hsettled hprogram hover
    obtain ⟨m, hm⟩ := hcan
    rw [hstuck m] at hm
    cases hm
  · exact (List.prefix_append _ _).trans hflows.begun
  · exact ⟨_, (houtputs o).whole⟩
  · have hfinished : s.finished o = true := by
      simp only [State.isOver, Bool.and_eq_true] at hover
      cases o with
      | out => exact hover.1.2
      | err => exact hover.2
    have hheld := (Channel.atEnd_iff.mp ((houtputs o).ended hfinished)).1
    rw [← (houtputs o).whole, hheld, List.append_nil]

/-- A program that answers before it has read anything, and ends: state `false` writes, `true` ends. -/
def Sample.hasty : Program Bool
  | false => .write .out [120] fun _ => true
  | true => .exit

/-- Channels with room for one byte, the hasty program, and two bytes for it to read. -/
def Sample.opening : State Bool := start (some [1, 2]) false 1 fun _ => 1

/-- An exchange with it: the feeder fills its channel, the program ends, and all the rest is done
when it is gone. -/
def Sample.moves : List Move :=
  [.feed 0, .act 0, .act 0, .endFeeding, .collect .out 0, .endCollecting .out, .endCollecting .err]

/-- The state that a list of moves leads to. -/
def run (program : Program σ) : State σ → List Move → Option (State σ)
  | s, [] => some s
  | s, m :: moves => (move program s m).bind (run program · moves)

/-- Whatever a list of moves leads to can be reached. -/
theorem Reachable.of_run {moves : List Move} (hreach : Reachable program first s)
    (hrun : run program s moves = some t) : Reachable program first t := by
  induction moves generalizing s with
  | nil => exact Option.some.inj hrun ▸ hreach
  | cons m moves ih =>
    obtain ⟨next, hmove, hrest⟩ := Option.bind_eq_some_iff.mp hrun
    exact ih (.next m hreach hmove) hrest

/-- The program that read nothing of its input has all it wrote collected. -/
theorem reachable_lossless_hasty : ∃ s : State Bool,
    (0 < 1 ∧ ∀ _ : Output, 0 < 1) ∧ Reachable Sample.hasty Sample.opening s ∧ s.isOver = true ∧
      s.collected .out = [120] ∧ Lossless Sample.hasty [1, 2] s := by
  have hreach : Reachable Sample.hasty Sample.opening
      ((run Sample.hasty Sample.opening Sample.moves).get rfl) :=
    Reachable.start.of_run (Option.some_get _).symm
  exact ⟨_, ⟨Nat.one_pos, fun _ => Nat.one_pos⟩, hreach, rfl, rfl,
    reachable_lossless Sample.hasty (some [1, 2]) false 1 (fun _ => 1) Nat.one_pos
      (fun _ => Nat.one_pos) hreach⟩

end Exemplar.Exchange
