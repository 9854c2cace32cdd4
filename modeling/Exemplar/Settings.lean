/-
Exemplar.Settings — where the examples are and which tools work on them.

Each setting has a default and a variable that overrides it. A variable whose value is blank counts
as not set. The default compiler belongs to the repository that the examples root stands in, so it
depends on the root.

  §1 settings and their defaults
  §2 the variables
-/
import Exemplar.Command
import Exemplar.Path

namespace Exemplar

/-! ## §1 Settings and their defaults -/

/-- Everything a verification needs to know about its surroundings. -/
structure Settings where
  /-- The directory whose sub-directories are the examples. -/
  root : Path
  buildTool : Command
  /-- The build profile, which is also a part of the artifact's path. -/
  profile : String
  /-- The target framework, which is also a part of the artifact's path. -/
  framework : String
  compiler : Command
  runtime : Command
  deriving DecidableEq, Repr

namespace Settings

/-- The compiler in the repository around an examples root: its project stands at `src/CLI` beside
the root. -/
def defaultCompiler (root : Path) : Command :=
  ⟨"dotnet", ["run", "--project", (root / ".." / "src" / "CLI" / "CSynth.CLI.csproj").text, "--"]⟩

/-- The defaults for an examples root. -/
def ofRoot (root : Path) : Settings where
  root
  buildTool := ⟨"dotnet", ["build"]⟩
  profile := "Release"
  framework := "net8.0"
  compiler := defaultCompiler root
  runtime := ⟨"lune", ["run"]⟩

/-! ## §2 The variables -/

/-- Values of environment variables by name. -/
abbrev Environment := String → Option String

/-- The value of a variable, unless it is not set or blank. -/
def value? (env : Environment) (key : String) : Option String :=
  (env key).filter fun value => Text.trim value ≠ ""

/-- The text that a variable gives, trimmed. -/
def text? (env : Environment) (key : String) : Option String :=
  (value? env key).map Text.trim

/-- The command that a variable gives. -/
def command? (env : Environment) (key : String) : Option Command :=
  (value? env key).bind Command.parse?

/-- The settings that the variables give. -/
def ofEnvironment (env : Environment) : Settings :=
  let base := ofRoot ⟨(text? env "CSYNTH_EXAMPLES_ROOT").getD "examples"⟩
  { base with
    buildTool := (command? env "CSYNTH_BUILD_TOOL").getD base.buildTool
    profile := (text? env "CSYNTH_BUILD_PROFILE").getD base.profile
    framework := (text? env "CSYNTH_TARGET_FRAMEWORK").getD base.framework
    compiler := (command? env "CSYNTH_COMPILER").getD base.compiler
    runtime := (command? env "CSYNTH_RUNTIME").getD base.runtime }

end Settings

end Exemplar
