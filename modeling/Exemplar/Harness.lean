/-
Exemplar.Harness — the phases of a verification and their order.

An example is built, compiled to a script and run, and the output is compared with the one expected.
A build that fails is no failure of the run: the artifact it should have left decides. Every other
failure ends the run. Outputs that differ are told and counted.

  §1 the phases: build, compile, run
  §2 verifying examples
  §3 from an argument to a verification
-/
import Exemplar.Example
import Exemplar.Registry
import Exemplar.Session
import Exemplar.Text.Quoted

namespace Exemplar

open Session

/-- The settings and the tools of a verification. -/
structure Harness (σ : Type) where
  settings : Settings
  tools : Toolchain σ

/-- A build that was tried. -/
structure Build where
  /-- When it began. -/
  started : Nat
  /-- Its exit code: none if it was ended by a signal or did not start. -/
  code : ExitCode
  deriving DecidableEq, Repr

namespace Harness

variable {σ : Type}

/-- The example of a name under the harness's settings. -/
def exampleOf (h : Harness σ) (name : String) : Example :=
  Example.ofName h.settings name

/-! ## §1 The phases -/

/-- The call that builds an example. -/
def buildCall (h : Harness σ) (ex : Example) : Call where
  program := h.settings.buildTool.program
  args := h.settings.buildTool.argsWith ["-c", h.settings.profile, ex.directory.text]

/-- The call that compiles an example's artifact. -/
def compileCall (h : Harness σ) (ex : Example) : Call where
  program := h.settings.compiler.program
  args := h.settings.compiler.argsWith [ex.artifact.text]

/-- The call that runs an example's script with the runtime found at the path `program`. A call is
made by text, so what is not UTF-8 in the path is shown as U+FFFD. -/
def runCall (h : Harness σ) (ex : Example) (program : Bytes) (input : String) : Call where
  program := Utf8.decodeLossy program
  args := h.settings.runtime.argsWith [ex.script.text]
  stdin := some (Utf8.encode input)

/-- Builds an example. Never fails. -/
def build (h : Harness σ) (ex : Example) : Session σ Build := do
  log .info .pipeline ("building " ++ ex.name)
  let started ← tick
  match ← attempt h.tools (h.buildCall ex) with
  | .ok outcome =>
    if !outcome.succeeded then
      log .warn .pipeline ("build of " ++ ex.name ++ " exited with " ++ outcome.code.shown)
      log .debug .pipeline ("build stderr:\n" ++ outcome.stderr)
    pure ⟨started, outcome.code⟩
  | .error cause =>
    let failure := Failure.spawn (h.buildCall ex).program cause
    log .warn .pipeline ("build of " ++ ex.name ++ " not started: " ++ failure.oneLine)
    pure ⟨started, none⟩

/-- Compiles an artifact that is there and writes the script, whose text it gives. The script of
before is replaced. -/
def compileArtifact (h : Harness σ) (ex : Example) : Session σ String := do
  log .info .pipeline ("compiling " ++ ex.name)
  let outcome ← execute h.tools (h.compileCall ex)
  if outcome.succeeded then
    store ex.script (Utf8.encode outcome.stdout)
    pure outcome.stdout
  else throw (.compiler ex.name outcome.code outcome.stderr)

/-- Compiles an example's artifact, if there is one. -/
def compile (h : Harness σ) (ex : Example) (built : Option Build) : Session σ String := do
  match ← inspect fun fs here => fs.file? here ex.artifact with
  | none => throw (.missingArtifact ex.name ex.artifact)
  | some artifact =>
    if built.any fun build => artifact.stamp.precedes build.started then
      log .info .pipeline
        (ex.artifact.text ++ " predates the last build (up to date, or the build failed)")
    h.compileArtifact ex

/-- Runs an example's script on its input and gives what it writes. -/
def run (h : Harness σ) (ex : Example) : Session σ String := do
  match ← locate h.tools h.settings.runtime.program with
  | none => throw (.runtimeUnavailable h.settings.runtime.program)
  | some program =>
    log .debug .pipeline ("runtime resolved to " ++ Utf8.decodeLossy program)
    let input ← consult fun fs here => fs.input here ex
    log .info .pipeline ("running " ++ ex.name ++ ".lua")
    let outcome ← execute h.tools (h.runCall ex program input)
    if outcome.succeeded then pure outcome.stdout
    else throw (.runtime ex.name outcome.code outcome.stderr)

/-! ## §2 Verifying examples -/

/-- Takes one example through all phases and tells the verdict. -/
def verifyOne (h : Harness σ) (name : String) : Session σ Verdict := do
  let ex := h.exampleOf name
  let built ← h.build ex
  log .debug .driver ("build of " ++ ex.name ++ " finished with " ++ built.code.shown)
  let _ ← h.compile ex (some built)
  tell (Report.scriptWritten ex.script)
  let actual ← h.run ex
  let expected ← consult fun fs here => fs.expected here ex
  let comparison := compare actual expected
  tell (Report.outcome ex.name comparison)
  pure comparison.verdict

/-- Verifies examples in order and adds their verdicts to the counts. The first failure ends it. -/
def verifyFrom (h : Harness σ) (counts : Summary) : List String → Session σ Summary
  | [] => pure counts
  | name :: names => do
    let verdict ← h.verifyOne name
    h.verifyFrom (counts.record verdict) names

/-- Verifies examples in order and counts their verdicts. -/
def verify (h : Harness σ) (names : List String) : Session σ Summary :=
  h.verifyFrom {} names

/-! ## §3 From an argument to a verification -/

/-- Verifies what an argument selects from the examples below the root. If it selects all of them,
the counts are told at the end. -/
def verifySelected (h : Harness σ) (arg : String) : Session σ Summary := do
  let registry ← consult fun fs here => Registry.discover fs here h.settings.root
  log .debug .driver
    ("discovered " ++ toString registry.length ++ " examples: " ++ Text.quotedList registry)
  match ← consult fun _ _ => registry.select arg with
  | .one name => h.verify [name]
  | .all =>
    let counts ← h.verify registry
    tell (Report.summary counts)
    pure counts

end Harness

end Exemplar
