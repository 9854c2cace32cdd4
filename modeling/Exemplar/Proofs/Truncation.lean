/-
Exemplar.Proofs.Truncation — a sink that gets full only cuts a verification short.

A verification is compared with the same one on a sink that takes so many bytes in all. If these are
enough nothing differs. If not, it ends when it tells the text that carries the first byte too many:
the sink holds what fitted, the failure is that of the sink, and all else is as it was when the
verification on the other sink came to tell that text.

  §1 worlds whose sink has a limit
  §2 sessions that tell nothing
  §3 sessions that are cut short
  §4 where examples tell their texts
  §5 a verification
-/
import Exemplar.Proofs.Containment

namespace Exemplar

variable {σ : Type}

/-! ## §1 Worlds whose sink has a limit -/

namespace World

/-- A world with the same but a sink that takes so many bytes in all. -/
def upTo (w : World σ) (limit : Nat) : World σ :=
  { w with sink := { w.sink with limit := some limit } }

/-- Whether a world comes after another one in a session: what the sink has taken and what happened
was only added to, and the sink is the same one. -/
structure Extends (after w : World σ) : Prop where
  limit : after.sink.limit = w.sink.limit
  taken : w.sink.taken <+: after.sink.taken
  events : w.events <+: after.events

namespace Extends

variable {w v u : World σ}

theorem refl (w : World σ) : w.Extends w := ⟨rfl, List.prefix_rfl, List.prefix_rfl⟩

theorem trans (h : u.Extends v) (h' : v.Extends w) : u.Extends w :=
  ⟨h.limit.trans h'.limit, h'.taken.trans h.taken, h'.events.trans h.events⟩

/-- The length of what was taken does not get smaller. -/
theorem length_le (h : v.Extends w) : w.sink.taken.length ≤ v.sink.taken.length :=
  h.taken.length_le

/-- A world without a limit has none later. -/
theorem unlimited (h : v.Extends w) (hw : w.Unlimited) : v.Unlimited := h.limit.trans hw

theorem told (w : World σ) (bytes : Bytes) : (w.told bytes).Extends w :=
  ⟨rfl, List.prefix_append _ _, List.prefix_append _ _⟩

end Extends

/-- A sink without a limit takes all it is given. -/
theorem told_unlimited {w : World σ} (hw : w.Unlimited) (bytes : Bytes) :
    (w.told bytes).sink.taken = w.sink.taken ++ bytes ∧
      (w.told bytes).events = w.events ++ [.output bytes] := by
  have hlimit : w.sink.limit = none := hw
  simp [World.told, Sink.take, Sink.fitting, hlimit]

/-- Bytes that a limit leaves room for are taken with it as they are without one. -/
theorem upTo_told {w : World σ} (hw : w.Unlimited) {bytes : Bytes} {limit : Nat}
    (hroom : w.sink.taken.length + bytes.length ≤ limit) :
    (w.upTo limit).told bytes = (w.told bytes).upTo limit := by
  have hlimit : w.sink.limit = none := hw
  have hall : bytes.take (limit - w.sink.taken.length) = bytes := List.take_of_length_le (by omega)
  simp [World.told, World.upTo, Sink.take, Sink.fitting, hlimit, hall]

end World

namespace Session

variable {α β : Type}

/-! ## §2 Sessions that tell nothing -/

/-- A limit of the sink makes no difference to a session that tells nothing, and the sink is left as
it is. -/
theorem Quiet.perform_upTo {tools : Toolchain σ} {allowed : Action → Prop} {x : Session σ α}
    (hx : Quiet tools allowed x) (w : World σ) (limit : Nat) :
    x.perform (w.upTo limit) = ((x.perform w).1, (x.perform w).2.upTo limit) ∧
      (x.perform w).2.sink = w.sink ∧ w.events <+: (x.perform w).2.events := by
  induction hx generalizing w with
  | pure a => exact ⟨rfl, rfl, List.prefix_rfl⟩
  | throw failure => exact ⟨rfl, rfl, List.prefix_rfl⟩
  | inspect f => exact ⟨rfl, rfl, List.prefix_rfl⟩
  | consult f => exact ⟨rfl, rfl, List.prefix_rfl⟩
  | log _ => exact ⟨rfl, rfl, List.prefix_append _ _⟩
  | tick _ => exact ⟨rfl, rfl, List.prefix_rfl⟩
  | attempt _ => exact ⟨rfl, rfl, List.prefix_append _ _⟩
  | locate _ => exact ⟨rfl, rfl, List.prefix_append _ _⟩
  | @store path data _ =>
    have hlimited : (w.upTo limit).files.write (w.upTo limit).here path data =
        w.files.write w.here path data := rfl
    rw [perform_store, perform_store, hlimited]
    cases w.files.write w.here path data with
    | ok files => exact ⟨rfl, rfl, List.prefix_rfl⟩
    | error cause => exact ⟨rfl, rfl, List.prefix_rfl⟩
  | @bind _ _ x f _ _ ihx ihf =>
    obtain ⟨hsame, hsink, hevents⟩ := ihx w
    rw [perform_bind, perform_bind, hsame]
    rcases hperform : x.perform w with ⟨_ | a, v⟩
    · rw [hperform] at hsink hevents
      exact ⟨rfl, hsink, hevents⟩
    · rw [hperform] at hsink hevents
      obtain ⟨hsame', hsink', hevents'⟩ := ihf a v
      exact ⟨hsame', hsink'.trans hsink, hevents.trans hevents'⟩

/-! ## §3 Sessions that are cut short -/

/-- How a session is cut short by a limit where it tells a text: the text begins within the limit
and ends behind it, the session fails there, and the world is that in which the whole session came
to tell the text, but for what the sink still took. -/
structure CutAt (limit : Nat) (w : World σ) (text : String) (mid : World σ)
    (whole cut : Except Failure α × World σ) : Prop where
  comes : mid.Extends w
  begins : mid.sink.taken.length ≤ limit
  crosses : limit < mid.sink.taken.length + (Utf8.encode text).length
  reached : whole.2.Extends (mid.told (Utf8.encode text))
  ends : cut = (.error (.access ⟨"<stdout>"⟩ .sinkFull), (mid.upTo limit).told (Utf8.encode text))

/-- What a limit of the sink makes of a session that comes to tell texts in the worlds where it
`Tells` them: nothing if the limit is enough; and otherwise the session is cut short at one of
them. -/
structure Truncates (Tells : String → World σ → Prop) (w : World σ) (x : Session σ α) : Prop where
  extended : (x.perform w).2.Extends w
  fits : ∀ limit, (x.perform w).2.sink.taken.length ≤ limit →
    x.perform (w.upTo limit) = ((x.perform w).1, (x.perform w).2.upTo limit)
  cut : ∀ limit, w.sink.taken.length ≤ limit → limit < (x.perform w).2.sink.taken.length →
    ∃ text mid, Tells text mid ∧ CutAt limit w text mid (x.perform w) (x.perform (w.upTo limit))

variable {Tells Tells' : String → World σ → Prop} {w : World σ}

theorem Truncates.mono {x : Session σ α} (hx : Truncates Tells w x)
    (hsub : ∀ text mid, Tells text mid → Tells' text mid) : Truncates Tells' w x := by
  refine { hx with cut := fun limit hbegin hmore => ?_ }
  obtain ⟨text, mid, htells, hcut⟩ := hx.cut limit hbegin hmore
  exact ⟨text, mid, hsub text mid htells, hcut⟩

/-- A session that tells nothing is not cut short. -/
theorem Quiet.truncates {tools : Toolchain σ} {allowed : Action → Prop} {x : Session σ α}
    (hx : Quiet tools allowed x) : Truncates Tells w x := by
  refine ⟨?_, fun limit _ => (hx.perform_upTo w limit).1, fun limit hbegin hmore => ?_⟩
  · obtain ⟨-, hsink, hevents⟩ := hx.perform_upTo w 0
    exact ⟨congrArg Sink.limit hsink, ⟨[], by rw [List.append_nil, hsink]⟩, hevents⟩
  · rw [(hx.perform_upTo w limit).2.1] at hmore
    omega

/-- Telling a text is cut short where the text crosses the limit. -/
theorem Truncates.tell {text : String} (hw : w.Unlimited) (htells : Tells text w) :
    Truncates Tells w (tell text) := by
  have hwhole := perform_tell w hw text
  have hafter := (World.told_unlimited hw (Utf8.encode text)).1
  have hlimited (limit : Nat) := perform_tell_any (w.upTo limit) text
  have haccepts (limit : Nat) : (w.upTo limit).sink.accepts (Utf8.encode text) =
      decide (w.sink.taken.length + (Utf8.encode text).length ≤ limit) := rfl
  rw [← List.length_append, ← hafter] at haccepts
  refine ⟨by rw [hwhole]; exact .told w _, fun limit hroom => ?_, fun limit hbegin hmore => ?_⟩
  · rw [hwhole] at hroom ⊢
    rw [hlimited, haccepts, if_pos (by simpa using hroom)]
    rw [World.upTo_told hw (by rwa [← List.length_append, ← hafter])]
  · rw [hwhole] at hmore ⊢
    refine ⟨text, w, htells, .refl w, hbegin, ?_, .refl _, ?_⟩
    · rwa [← List.length_append, ← hafter]
    · rw [hlimited, haccepts, if_neg (by simpa using hmore)]

/-- Where a session is cut short, so is one that would go on from it. -/
theorem CutAt.bind {limit : Nat} {text : String} {mid : World σ} {x : Session σ α}
    {f : α → Session σ β}
    (hcut : CutAt limit w text mid (x.perform w) (x.perform (w.upTo limit)))
    (hlater : ((x >>= f).perform w).2.Extends (x.perform w).2) :
    CutAt limit w text mid ((x >>= f).perform w) ((x >>= f).perform (w.upTo limit)) :=
  { hcut with
    reached := hlater.trans hcut.reached
    ends := by rw [perform_bind, hcut.ends] }

/-- Of two sessions one after the other the first one that is cut short ends both. -/
theorem Truncates.bind {x : Session σ α} {f : α → Session σ β} (hw : w.Unlimited)
    (hx : Truncates Tells w x)
    (hf : ∀ a v, v.Unlimited → x.perform w = (.ok a, v) → Truncates Tells v (f a)) :
    Truncates Tells w (x >>= f) := by
  rcases hperform : x.perform w with ⟨failure | a, v⟩
  · -- the first one fails anyway, and there is no second one
    have hbind : (x >>= f).perform w = (.error failure, v) := by rw [perform_bind, hperform]
    have hsame : ((x >>= f).perform w).2 = (x.perform w).2 := by rw [hbind, hperform]
    refine ⟨hsame ▸ hx.extended, fun limit hroom => ?_, fun limit hbegin hmore => ?_⟩
    · rw [hsame] at hroom
      rw [perform_bind, hx.fits limit hroom, hbind, hperform]
    · rw [hsame] at hmore
      obtain ⟨text, mid, htells, hcut⟩ := hx.cut limit hbegin hmore
      exact ⟨text, mid, htells, hcut.bind (hsame ▸ .refl _)⟩
  · have hbind : (x >>= f).perform w = (f a).perform v := by rw [perform_bind, hperform]
    have hv : v.Extends w := by
      have hextended := hx.extended
      rwa [hperform] at hextended
    have hfits (limit : Nat) (hroom : v.sink.taken.length ≤ limit) :
        (x >>= f).perform (w.upTo limit) = (f a).perform (v.upTo limit) := by
      have hfirst := hx.fits limit
      rw [hperform] at hfirst
      rw [perform_bind, hfirst hroom]
    have hrest := hf a v (hv.unlimited hw) hperform
    refine ⟨hbind ▸ hrest.extended.trans hv, fun limit hroom => ?_, fun limit hbegin hmore => ?_⟩
    · rw [hbind] at hroom ⊢
      rw [hfits limit (Nat.le_trans hrest.extended.length_le hroom)]
      exact hrest.fits limit hroom
    · by_cases hmiddle : v.sink.taken.length ≤ limit
      · rw [hbind] at hmore ⊢
        rw [hfits limit hmiddle]
        obtain ⟨text, mid, htells, hcut⟩ := hrest.cut limit hmiddle hmore
        exact ⟨text, mid, htells, { hcut with comes := hcut.comes.trans hv }⟩
      · have hfirst : limit < (x.perform w).2.sink.taken.length := by
          rw [hperform]
          exact Nat.not_le.mp hmiddle
        obtain ⟨text, mid, htells, hcut⟩ := hx.cut limit hbegin hfirst
        refine ⟨text, mid, htells, hcut.bind ?_⟩
        rw [hbind, hperform]
        exact hrest.extended

end Session

namespace Harness

open Session

variable (h : Harness σ)

/-! ## §4 Where examples tell their texts -/

/-- The record made once an example is built. -/
def buildRecord (name : String) (built : Build) : Log.Record :=
  ⟨.debug, .driver, "build of " ++ name ++ " finished with " ++ built.code.shown⟩

/-- Where the verification of some examples comes to tell a text: the text, and the world in which
it does. Each example tells of its script once that is written, and of its output once that is
compared. -/
inductive Tells : List String → World σ → String → World σ → Prop
  | script {name : String} {names : List String} {w v mid : World σ} {built : Build}
      {script : String}
      (hbuild : (h.build (h.exampleOf name)).perform w = (.ok built, v))
      (hcompile : (h.compile (h.exampleOf name) (some built)).perform
        (v.noted (.log (buildRecord name built))) = (.ok script, mid)) :
      Tells (name :: names) w (Report.scriptWritten (h.exampleOf name).script) mid
  | outcome {name : String} {names : List String} {w v u mid : World σ} {built : Build}
      {script actual : String} {expected : Option String}
      (hbuild : (h.build (h.exampleOf name)).perform w = (.ok built, v))
      (hcompile : (h.compile (h.exampleOf name) (some built)).perform
        (v.noted (.log (buildRecord name built))) = (.ok script, u))
      (hrun : (h.run (h.exampleOf name)).perform
        (u.told (Utf8.encode (Report.scriptWritten (h.exampleOf name).script))) =
          (.ok actual, mid))
      (hexpected : mid.files.expected mid.here (h.exampleOf name) = .ok expected) :
      Tells (name :: names) w (Report.outcome name (compare actual expected)) mid
  | later {name text : String} {names : List String} {w v mid : World σ} {verdict : Verdict}
      (hone : (h.verifyOne name).perform w = (.ok verdict, v)) (hrest : Tells names v text mid) :
      Tells (name :: names) w text mid

/-- An example is cut short where it tells one of its two texts. -/
theorem verifyOne_truncates (name : String) (names : List String) {w : World σ}
    (hw : w.Unlimited) : Truncates (h.Tells (name :: names) w) w (h.verifyOne name) := by
  unfold verifyOne
  refine .bind hw (h.build_quiet name).truncates fun built v hv hbuild => ?_
  have hlog (record : Log.Record) :
      Quiet h.tools (h.ActsFor name) (log record.level record.source record.message) :=
    .log (.record record)
  refine .bind hv (hlog (buildRecord name built)).truncates fun _ v' hv' hlogged => ?_
  obtain ⟨-, rfl⟩ := Prod.mk.inj hlogged
  refine .bind hv' (h.compile_quiet name _).truncates fun script u hu hcompile => ?_
  refine .bind hu (.tell hu (.script hbuild hcompile)) fun _ u' hu' htell => ?_
  rw [perform_tell u hu] at htell
  obtain ⟨-, rfl⟩ := Prod.mk.inj htell
  refine .bind hu' (h.run_quiet name).truncates fun actual mid hmid hrun => ?_
  have hconsult : Quiet h.tools (h.ActsFor name)
      (consult fun fs here => fs.expected here (h.exampleOf name)) := .consult _
  refine .bind hmid hconsult.truncates fun expected mid' hmid' hread => ?_
  obtain ⟨hexpected, rfl⟩ := Prod.mk.inj hread
  have hpure (verdict : Verdict) : Quiet h.tools (h.ActsFor name) (pure verdict) := .pure verdict
  exact .bind hmid (.tell hmid (.outcome hbuild hcompile hrun hexpected)) fun _ _ _ _ =>
    (hpure _).truncates

/-- A list of examples is cut short where one of them tells a text. -/
theorem verifyFrom_truncates (names : List String) (counts : Summary) {w : World σ}
    (hw : w.Unlimited) : Truncates (h.Tells names w) w (h.verifyFrom counts names) := by
  induction names generalizing counts w with
  | nil =>
    have hpure : Quiet h.tools (fun _ => True) (pure counts : Session σ Summary) := .pure counts
    exact hpure.truncates
  | cons name names ih =>
    refine .bind hw (h.verifyOne_truncates name names hw) fun verdict v hv hone => ?_
    exact (ih _ hv).mono fun _ _ htells => .later hone htells

/-! ## §5 A verification -/

/-- Where a verification comes to tell a text: for an example that is selected, or when it tells the
counts once all examples are verified. -/
inductive TellsSelected (arg : String) (w : World σ) : String → World σ → Prop
  | example {registry : Registry} {selected : Registry.Selection} {text : String} {mid : World σ}
      (hselection : h.selection w arg = .ok (registry, selected))
      (htells : h.Tells (selected.names registry) (w.noted (.log (discoveryRecord registry)))
        text mid) :
      TellsSelected arg w text mid
  | summary {registry : Registry} {counts : Summary} {mid : World σ}
      (hselection : h.selection w arg = .ok (registry, .all))
      (hall : (h.verify registry).perform (w.noted (.log (discoveryRecord registry))) =
        (.ok counts, mid)) :
      TellsSelected arg w (Report.summary counts) mid

/-- A verification is cut short where it tells a text. -/
theorem verifySelected_truncates (arg : String) {w : World σ} (hw : w.Unlimited) :
    Truncates (h.TellsSelected arg w) w (h.verifySelected arg) := by
  have hquiet {α : Type} {x : Session σ α} (hx : Quiet h.tools (fun _ => True) x) (v : World σ) :
      Truncates (h.TellsSelected arg w) v x := hx.truncates
  unfold verifySelected
  refine .bind hw (hquiet (.consult _) w) fun registry v hv hread => ?_
  rw [perform_consult] at hread
  obtain ⟨hdiscover, rfl⟩ := Prod.mk.inj hread
  refine .bind hw (hquiet (.log trivial) w) fun _ v' hv' hlogged => ?_
  rw [perform_log] at hlogged
  obtain ⟨-, rfl⟩ := Prod.mk.inj hlogged
  refine .bind hv' (hquiet (.consult _) _) fun selected v'' hv'' hread' => ?_
  rw [perform_consult] at hread'
  obtain ⟨hselect, rfl⟩ := Prod.mk.inj hread'
  have hselection : h.selection w arg = .ok (registry, selected) := by
    simp [selection, hdiscover, hselect, Except.map]
  cases selected with
  | one name =>
    exact (h.verifyFrom_truncates [name] {} hv').mono fun _ _ htells => .example hselection htells
  | all =>
    have hnames := (h.verifyFrom_truncates registry {} hv').mono fun _ _ htells =>
      TellsSelected.example hselection htells
    refine .bind hv' hnames fun counts mid hmid hall => ?_
    exact .bind hmid (.tell hmid (.summary hselection hall)) fun _ _ _ _ => hquiet (.pure _) _

/-- What is said of a verification that was asked for by an argument in some world, and of the same
one with a sink that has room for so many more bytes. If all that the first one tells fits, they come
to the same. If not, the second one fails as the sink does, which then holds what fits. It has come
as far as the first one has when that comes to tell the text with the first byte that does not fit:
what happened and what the tools and the files became is the same up to there, and nothing happens
behind it. -/
def Truncated (arg : String) (w : World σ) (room : Nat) : Prop :=
  let limit := w.sink.taken.length + room
  let whole := (h.verifySelected arg).perform w
  let cut := (h.verifySelected arg).perform (w.upTo limit)
  ∃ told : Bytes, whole.2.sink.taken = w.sink.taken ++ told ∧
    (told.length ≤ room → cut = (whole.1, whole.2.upTo limit)) ∧
    (room < told.length →
      cut.1 = .error (.access ⟨"<stdout>"⟩ .sinkFull) ∧
      cut.2.sink.taken = w.sink.taken ++ told.take room ∧
      ∃ text mid before rest later, h.TellsSelected arg w text mid ∧
        told = before ++ Utf8.encode text ++ rest ∧
        before.length ≤ room ∧ room < before.length + (Utf8.encode text).length ∧
        mid.sink.taken = w.sink.taken ++ before ∧
        whole.2.events = mid.events ++ .output (Utf8.encode text) :: later ∧
        cut.2.events = mid.events ++ [.output ((Utf8.encode text).take (room - before.length))] ∧
        cut.2.stage = mid.stage ∧ cut.2.here = mid.here)

/-- A sink that gets full only cuts a verification short, whatever the verification is asked for and
however much the sink takes. -/
theorem verifySelected_truncated (arg : String) (w : World σ) (room : Nat) (hw : w.Unlimited) :
    h.Truncated arg w room := by
  unfold Truncated
  intro limit whole cut
  have htruncates : Truncates (h.TellsSelected arg w) w (h.verifySelected arg) :=
    h.verifySelected_truncates arg hw
  obtain ⟨told, htold⟩ := htruncates.extended.taken
  have hlength : ((h.verifySelected arg).perform w).2.sink.taken.length =
      w.sink.taken.length + told.length := by
    rw [← List.length_append, htold]
  refine ⟨told, htold.symm, fun hfits => ?_, fun hmore => ?_⟩
  · exact htruncates.fits limit (by omega)
  obtain ⟨text, mid, htells, hcut⟩ := htruncates.cut limit (by omega) (by omega)
  obtain ⟨before, hbefore⟩ := hcut.comes.taken
  obtain ⟨rest, hrest⟩ := hcut.reached.taken
  obtain ⟨later, hlater⟩ := hcut.reached.events
  obtain ⟨htaken, hevents⟩ := World.told_unlimited (hcut.comes.unlimited hw) (Utf8.encode text)
  have hends : cut = _ := hcut.ends
  have hbegins := hcut.begins
  have hcrosses := hcut.crosses
  -- lengths are counted from what the sink had taken at the start
  rw [← hbefore, List.length_append] at hbegins hcrosses
  have hroom : limit - mid.sink.taken.length = room - before.length := by
    rw [← hbefore, List.length_append]
    omega
  have htext : told = before ++ Utf8.encode text ++ rest := by
    rw [htaken, ← hbefore, ← htold, List.append_assoc, List.append_assoc] at hrest
    rw [List.append_assoc]
    exact (List.append_cancel_left hrest).symm
  have htake : told.take room = before ++ (Utf8.encode text).take (room - before.length) := by
    rw [htext, List.append_assoc, List.take_append, List.take_of_length_le (by omega),
      List.take_append_of_le_length (by omega)]
  have hlast : ((mid.upTo limit).sink.fitting (Utf8.encode text)) =
      (Utf8.encode text).take (room - before.length) := by rw [← hroom]; rfl
  refine ⟨by rw [hends], ?_, text, mid, before, rest, later, htells, htext, by omega, by omega,
    hbefore.symm, ?_, ?_, by rw [hends]; rfl, by rw [hends]; rfl⟩
  · rw [hends, htake, ← List.append_assoc, hbefore, ← hlast]
    rfl
  · rw [← hlater, hevents, List.append_assoc]
    rfl
  · rw [hends, ← hlast]
    rfl

/-- In the small world a sink that takes twenty bytes is full within the line that tells of the
script, and the script is not run. -/
theorem verifySelected_truncated_sample :
    Sample.world.Unlimited ∧ Sample.harness.Truncated "a" Sample.world 20 ∧
    ((Sample.harness.verifySelected "a").perform (Sample.world.upTo 20)).1 =
      .error (.access ⟨"<stdout>"⟩ .sinkFull) ∧
    ((Sample.harness.verifySelected "a").perform (Sample.world.upTo 20)).2.sink.taken =
      Utf8.encode "Output written to /e" ∧
    ((Sample.harness.verifySelected "a").perform (Sample.world.upTo 20)).2.uses =
      [.call (Sample.harness.buildCall (Sample.harness.exampleOf "a")),
        .call (Sample.harness.compileCall (Sample.harness.exampleOf "a"))] := by
  have hdiscover : Registry.discover (Sample.world.upTo 20).files (Sample.world.upTo 20).here
      Sample.harness.settings.root = .ok ["a", "b"] := Sample.discover_files
  have hselect : Registry.select ["a", "b"] "a" = .ok (.one "a") := by decide +kernel
  refine ⟨rfl, verifySelected_truncated Sample.harness "a" Sample.world 20 rfl, ?_⟩
  rw [perform_verifySelected, hdiscover]
  dsimp only
  rw [hselect]
  decide +kernel

end Harness

end Exemplar
