/-
Exemplar.Proofs.Capture — what the compiler writes reaches the script.

A program writes bytes, and they are captured as a text: bytes that are none are read with U+FFFD
for each broken piece. The text is written to the script. So the script holds the bytes themselves
exactly if they are a text, and else a text that differs from them in the broken pieces only.
Nothing is assumed of the bytes, nor of the files; the script may be reached by links.

  §1 reading what was written
  §2 tools that capture what programs write
  §3 from the compiler to the script
-/
import Exemplar.Machine
import Exemplar.Proofs.Frame
import Exemplar.Proofs.Lossy

namespace Exemplar

variable {σ : Type}

/-! ## §1 Reading what was written -/

namespace FileSystem

variable {fs fs' : FileSystem} {here : Location} {path : Path}

/-- A walk ends at a file that stands in the directory where its last step is taken. -/
theorem walk_file {links : Nat} {name : Name} {rest : List Step} {file : File}
    (hsize : ¬ nameLimit < name.size) (hrest : rest.isEmpty = true)
    (hnode : fs.node? (name :: here) = some (.file file)) :
    fs.walk .find links here (.into name :: rest) = .ok (.taken (name :: here) (.file file)) := by
  rw [walk_into, if_neg (by simp), if_neg hsize, hnode]
  exact if_pos hrest

/-- A walk that ends at a place for a file ends at the file that is put there. -/
theorem walk_put {links : Nat} {steps : List Step} {location : Location} {place : Place}
    (file : File) (hwalk : fs.walk .find links here steps = .ok place)
    (hplace : place = .free location ∨ ∃ old, place = .taken location (.file old)) :
    (fs.put location (.file file)).walk .find links here steps =
      .ok (.taken location (.file file)) := by
  have hleaf : fs.Leaf location := by
    have hseen := seen_of_walk hwalk
    rcases hplace with rfl | ⟨old, rfl⟩
    · exact Or.inl hseen
    · exact Or.inr ⟨old, hseen⟩
  have hkeeps : Keeps fs (fs.put location (.file file)) := keeps_put hleaf
  induction links, here, steps using walk_induction with
  | nil links here =>
    rw [walk_nil] at hwalk
    obtain rfl := Except.ok.inj hwalk
    rcases hplace with hfree | ⟨old, hold⟩
    · cases hfree
    · cases hold
  | move links here step rest hstep ih =>
    rw [walk_move _ _ _ _ hstep] at hwalk ⊢
    exact ih hwalk
  | into links here name rest ih ihlinks =>
    rw [walk_into, if_neg (by simp)] at hwalk
    split at hwalk
    · cases hwalk
    rename_i hsize
    -- where the walk ends it was at the place, and the file is there now
    have hends (hrest : rest.isEmpty = true) (hhere : name :: here = location) :
        (fs.put location (.file file)).walk .find links here (.into name :: rest) =
          .ok (.taken location (.file file)) := by
      subst hhere
      exact walk_file hsize hrest (by rw [node?_put _ _ _ (by simp), if_pos rfl])
    -- a directory or a link on the way is kept
    rcases hnode : fs.node? (name :: here) with _ | (_ | old | target) <;> rw [hnode] at hwalk <;>
      dsimp only at hwalk
    · split at hwalk
      · rename_i hrest
        obtain rfl := Except.ok.inj hwalk
        rcases hplace with hfree | ⟨old, hold⟩
        · exact hends hrest (Place.free.inj hfree)
        · cases hold
      · cases hwalk
    · rw [walk_into, if_neg (by simp), if_neg hsize, hkeeps.directory _ hnode]
      exact ih hwalk
    · split at hwalk
      · rename_i hrest
        obtain rfl := Except.ok.inj hwalk
        rcases hplace with hfree | ⟨old, hold⟩
        · cases hfree
        · exact hends hrest (Place.taken.inj hold).1
      · cases hwalk
    · rw [walk_into, if_neg (by simp), if_neg hsize, hkeeps.link _ _ hnode]
      cases links with
      | zero => cases hwalk
      | succ links => exact ihlinks links (Nat.lt_succ_self links) _ _ hwalk

/-- A path to write to leads, for a reader, to the place that is written. -/
theorem resolve_put {location : Location} {place : Place} (file : File)
    (hresolve : fs.resolve here path .make = .ok place)
    (hplace : place = .free location ∨ ∃ old, place = .taken location (.file old)) :
    (fs.put location (.file file)).resolve here path = .ok (.taken location (.file file)) := by
  obtain ⟨hadmissible, hwalk⟩ := resolve_eq_ok.mp hresolve
  exact resolve_eq_ok.mpr ⟨hadmissible, walk_put file (walk_find hwalk) hplace⟩

/-- What was written at a path is read there, whatever links the path has. -/
theorem read_write {data : Bytes} (hwrite : fs.write here path data = .ok fs') :
    fs'.read here path = .ok data := by
  unfold write at hwrite
  split at hwrite
  · rename_i location hresolve
    obtain rfl := Except.ok.inj hwrite
    simp only [read, stat, resolve_put _ hresolve (Or.inl rfl)]
  · rename_i location old hresolve
    obtain rfl := Except.ok.inj hwrite
    simp only [read, stat, resolve_put _ hresolve (Or.inr ⟨old, rfl⟩)]
  · cases hwrite
  · cases hwrite

/-- Whether a file can be written at a path. -/
def Writable (fs : FileSystem) (here : Location) (path : Path) : Prop :=
  ∃ fs', fs.write here path [] = .ok fs'

instance : Decidable (fs.Writable here path) :=
  match hwrite : fs.write here path [] with
  | .ok fs' => isTrue ⟨fs', hwrite⟩
  | .error _ => isFalse fun ⟨_, hok⟩ => nomatch hwrite.symm.trans hok

/-- It does not matter what is to be written. -/
theorem Writable.write (hwritable : fs.Writable here path) (data : Bytes) :
    ∃ fs', fs.write here path data = .ok fs' := by
  obtain ⟨fs', hwrite⟩ := hwritable
  unfold FileSystem.write at hwrite ⊢
  split at hwrite
  · exact ⟨_, rfl⟩
  · exact ⟨_, rfl⟩
  · cases hwrite
  · cases hwrite

end FileSystem

/-! ## §2 Tools that capture what programs write -/

/-- Whether tools capture what programs leave. For a call, `raw` gives the exit code and the bytes
that were written, or why the program did not start. -/
def Toolchain.Captures (tools : Toolchain σ)
    (raw : σ → FileSystem → Call → Except Cause Machine.Capture) : Prop :=
  ∀ state fs call,
    (tools.execute state fs call).outcome = (raw state fs call).map Machine.Capture.outcome

/-- What a program leaves that the machine starts for a call. -/
def Machine.raw (machine : Machine) (fs : FileSystem) (call : Call) :
    Except Cause Machine.Capture :=
  (machine.loadCall fs call).map fun program =>
    (machine.runProgram fs call.stdin program.1 program.2).1

/-- The tools of the machine capture what its programs leave. -/
theorem Machine.toolchain_captures (machine : Machine) :
    machine.toolchain.Captures fun _ => machine.raw := by
  intro state fs call
  show (machine.perform fs call).1 = (machine.raw fs call).map Capture.outcome
  unfold perform raw
  cases hload : machine.loadCall fs call <;> rfl

/-! ## §3 From the compiler to the script -/

/-- What is said of the bytes of a script that holds what a program wrote. They are the bytes that
the program wrote exactly if those are a text. They are a text in any case, and the same is read of
them. A text that the program's bytes begin with stands at the beginning as it was, and behind it
what is read of the rest. All in all it is the program's bytes, which are cut in one way only, with
U+FFFD in place of each broken stretch. -/
structure Verbatim (bytes script : Bytes) : Prop where
  same : script = bytes ↔ Utf8.IsText bytes
  text : Utf8.IsText script
  again : Utf8.decodeLossy script = Utf8.decodeLossy bytes
  split : ∀ front rest, bytes = front ++ rest → Utf8.IsText front →
    script = front ++ Utf8.encode (Utf8.decodeLossy rest)
  pieces : ∃ cut, (∀ other, Utf8.Cut bytes other ↔ other = cut) ∧
    script = Utf8.encode (String.ofList (cut.map Utf8.Piece.shown))

/-- The text that is read of bytes holds them verbatim. -/
theorem verbatim_decodeLossy (bytes : Bytes) :
    Verbatim bytes (Utf8.encode (Utf8.decodeLossy bytes)) where
  same := Utf8.encode_decodeLossy_eq
  text := Utf8.isText_iff.mpr ⟨_, rfl⟩
  again := Utf8.decodeLossy_encode _
  split front rest hbytes hfront := by
    obtain ⟨s, rfl⟩ := Utf8.isText_iff.mp hfront
    rw [hbytes, Utf8.decodeLossy_encode_append, Utf8.encode_append]
  pieces := ⟨Utf8.pieces bytes, fun _ => Utf8.cut_iff, rfl⟩

namespace Harness

variable (h : Harness σ) (ex : Example) (built : Option Build) (w : World σ)

/-- The compiler's output reaches the script verbatim: if there is an artifact, and the compiler
ends well on it and leaves a place for the script, then the script is written. -/
theorem compile_verbatim {raw : σ → FileSystem → Call → Except Cause Machine.Capture}
    {capture : Machine.Capture} (hcaptures : h.tools.Captures raw)
    (hartifact : (w.files.file? w.here ex.artifact).isSome)
    (hraw : raw w.tools w.files (h.compileCall ex) = .ok capture) (hcode : capture.code = some 0)
    (hwritable : (w.stage.answer h.tools (h.compileCall ex)).files.Writable w.here ex.script) :
    ∃ after script,
      (h.compile ex built).perform w = (.ok (Utf8.decodeLossy capture.stdout), after) ∧
      after.files.read w.here ex.script = .ok script ∧ Verbatim capture.stdout script := by
  have hanswer :
      (w.stage.answer h.tools (h.compileCall ex)).outcome = .ok capture.outcome := by
    rw [Stage.answer, hcaptures]
    exact congrArg (Except.map Machine.Capture.outcome) hraw
  obtain ⟨files, hwrite⟩ :=
    hwritable.write (Utf8.encode (Utf8.decodeLossy capture.stdout))
  rcases hrun : (h.compile ex built).perform w with ⟨result, after⟩
  obtain ⟨uses, hcompiles, -⟩ := h.compile_goes ex built hrun
  -- the course of a compilation is determined, and this is one that writes the script
  obtain ⟨-, rfl, hafter⟩ := hcompiles.unique (.written hartifact hanswer hcode hwrite)
  refine ⟨after, _, rfl, ?_, verbatim_decodeLossy capture.stdout⟩
  have hfiles : after.files = files := congrArg Stage.files hafter
  rw [hfiles]
  exact FileSystem.read_write hwrite

end Harness

namespace Sample

/-- A compiler that breaks off in a character: three bytes of it are followed by a letter. -/
def broken : Unit → FileSystem → Call → Except Cause Machine.Capture :=
  fun _ _ _ => .ok ⟨some 0, [0x61, 0xF0, 0x9F, 0x98, 0x62], []⟩

/-- The tools that capture what it writes. -/
def capturing : Toolchain Unit :=
  { tools with
    execute := fun state files call =>
      { outcome := (broken state files call).map Machine.Capture.outcome, state, files } }

end Sample

/-- The broken character is one piece of the script. -/
theorem Harness.compile_verbatim_broken :
    Sample.capturing.Captures Sample.broken ∧
    ∃ after script,
      (({ Sample.harness with tools := Sample.capturing } : Harness Unit).compile
        (Sample.harness.exampleOf "a") none).perform Sample.world = (.ok "a\uFFFDb", after) ∧
      after.files.read [] ⟨"/ex/a/a.lua"⟩ = .ok script ∧
      Verbatim [0x61, 0xF0, 0x9F, 0x98, 0x62] script ∧ script = Utf8.encode "a\uFFFDb" := by
  have hcaptures : Sample.capturing.Captures Sample.broken := fun _ _ _ => rfl
  refine ⟨hcaptures, ?_⟩
  obtain ⟨after, script, hrun, hread, hverbatim⟩ :=
    compile_verbatim { Sample.harness with tools := Sample.capturing }
      (Sample.harness.exampleOf "a") none Sample.world hcaptures (by decide +kernel) rfl rfl
      (by decide +kernel)
  have hscript : script = [] ++ Utf8.encode (Utf8.decodeLossy [0x61, 0xF0, 0x9F, 0x98, 0x62]) :=
    hverbatim.split [] _ rfl (Utf8.isText_iff.mpr ⟨"", rfl⟩)
  exact ⟨after, script, hrun, hread, hverbatim, hscript⟩

end Exemplar
