/-
Exemplar.Proofs.Settings — what the settings depend on.

Of an environment only the values that are not blank count, and of these not the blanks at their
ends. Each variable governs its own setting and no other, but for the root: where no compiler is
given, the compiler is that of the repository around the root. A line that is not blank has a word
and so gives a command, which is why a default is never kept where a command is given.

  §1 lines and commands
  §2 what counts of an environment
  §3 settings by their variables
  §4 what a setting depends on
  §5 what every setting is like
  §6 settings
-/
import Exemplar.Proofs.Blanks
import Exemplar.Settings

namespace Exemplar

/-! ## §1 Lines and commands -/

namespace Command

variable {line : String} {command : Command}

/-- The lines that give no command are those of blanks only. -/
theorem parse?_eq_none : parse? line = none ↔ Text.allBlank line = true := by
  rw [← Text.words_eq_nil, parse?]
  cases Text.words line <;> simp

/-- A line gives the same command whether it is trimmed or not. -/
theorem parse?_trim (line : String) : parse? (Text.trim line) = parse? line := by
  rw [parse?, Text.words_trim, parse?]

/-- The program of a command that a line gives is a word. -/
theorem program_of_parse? (hparse : parse? line = some command) :
    command.program ≠ "" ∧ ∀ c ∈ command.program.toList, Text.isBlank c = false := by
  unfold parse? at hparse
  cases hwords : Text.words line with
  | nil => simp [hwords] at hparse
  | cons program args =>
    rw [hwords] at hparse
    obtain rfl := Option.some.inj hparse
    exact Text.of_mem_words (hwords ▸ List.mem_cons_self)

end Command

namespace Settings

variable {env env' : Environment}

/-! ## §2 What counts of an environment -/

/-- What counts of an environment: a value of blanks only is as if it were not set, and the others
are trimmed. -/
def effective (env : Environment) : Environment := fun key =>
  (env key).bind fun value => if Text.allBlank value then none else some (Text.trim value)

/-- Whether a variable is set to more than blanks. -/
def IsSet (env : Environment) (key : String) : Prop :=
  ∃ value, env key = some value ∧ Text.allBlank value = false

theorem effective_congr {key : String} (h : env key = env' key) :
    effective env key = effective env' key := by
  rw [effective, effective, h]

/-- The texts that the variables give are what counts of them. -/
theorem text?_eq (env : Environment) (key : String) : text? env key = effective env key := by
  unfold text? value? effective
  cases env key with
  | none => rfl
  | some value => by_cases hblank : Text.allBlank value = true <;>
      simp [Option.filter, Text.trim_eq_empty, hblank]

/-- The commands that the variables give are read from what counts of them. -/
theorem command?_eq (env : Environment) (key : String) :
    command? env key = (effective env key).bind Command.parse? := by
  rw [← text?_eq, text?, command?]
  cases value? env key with
  | none => rfl
  | some value => rw [Option.map_some, Option.bind_some, Option.bind_some, Command.parse?_trim]

/-- A variable that is set to more than blanks gives a command. -/
theorem command?_of_isSet {key value : String} (hvalue : env key = some value)
    (hblank : Text.allBlank value = false) :
    ∃ command, Command.parse? value = some command ∧ command? env key = some command := by
  have hparse : Command.parse? value ≠ none := by
    rw [ne_eq, Command.parse?_eq_none]
    simp [hblank]
  obtain ⟨command, hcommand⟩ := Option.ne_none_iff_exists'.mp hparse
  refine ⟨command, hcommand, ?_⟩
  rw [command?_eq, effective, hvalue]
  simp [hblank, Command.parse?_trim, hcommand]

/-- A command that a variable gives has a word for its program. -/
theorem program_of_command? {key : String} {command : Command}
    (h : command? env key = some command) :
    command.program ≠ "" ∧ ∀ c ∈ command.program.toList, Text.isBlank c = false := by
  obtain ⟨value, -, hparse⟩ := Option.bind_eq_some_iff.mp h
  exact Command.program_of_parse? hparse

/-- A text that a variable gives is not empty, and has no blanks at its ends. -/
theorem of_text? {key text : String} (h : text? env key = some text) :
    text ≠ "" ∧ Text.Trimmed text.toList := by
  obtain ⟨value, hvalue, rfl⟩ := Option.map_eq_some_iff.mp h
  exact ⟨by simpa using (Option.filter_eq_some_iff.mp hvalue).2, Text.trimmed_trim value⟩

/-! ## §3 Settings by their variables -/

/-- The variables, by what they set. -/
inductive Variable where
  | root
  | buildTool
  | profile
  | framework
  | compiler
  | runtime
  deriving DecidableEq, Repr

namespace Variable

/-- The name of a variable in an environment. -/
def key : Variable → String
  | root => "CSYNTH_EXAMPLES_ROOT"
  | buildTool => "CSYNTH_BUILD_TOOL"
  | profile => "CSYNTH_BUILD_PROFILE"
  | framework => "CSYNTH_TARGET_FRAMEWORK"
  | compiler => "CSYNTH_COMPILER"
  | runtime => "CSYNTH_RUNTIME"

/-- The setting that belongs to a variable: a text or a command. -/
def setting (settings : Settings) : Variable → String ⊕ Command
  | root => .inl settings.root.text
  | buildTool => .inr settings.buildTool
  | profile => .inl settings.profile
  | framework => .inl settings.framework
  | compiler => .inr settings.compiler
  | runtime => .inr settings.runtime

/-- Whether a variable gives a command, and not a text. -/
def isCommand : Variable → Bool
  | root | profile | framework => false
  | buildTool | compiler | runtime => true

/-- What a variable gives where it is set. -/
def given? (env : Environment) (v : Variable) : Option (String ⊕ Command) :=
  if v.isCommand then (command? env v.key).map .inr else (text? env v.key).map .inl

variable {v : Variable}

theorem given?_congr (h : effective env v.key = effective env' v.key) :
    v.given? env = v.given? env' := by
  simp only [given?, text?_eq, command?_eq, h]

/-- A variable that is set to more than blanks gives something: of a command variable, the command
that its line is. -/
theorem given?_of_isSet (h : IsSet env v.key) : ∃ setting, v.given? env = some setting := by
  obtain ⟨value, hvalue, hblank⟩ := h
  unfold given?
  split
  · obtain ⟨command, -, hcommand⟩ := command?_of_isSet hvalue hblank
    exact ⟨.inr command, by rw [hcommand]; rfl⟩
  · refine ⟨.inl (Text.trim value), ?_⟩
    rw [text?_eq, effective, hvalue]
    simp [hblank]

/-- A setting is what its variable gives, or the default in the root. -/
theorem setting_ofEnvironment (env : Environment) (v : Variable) :
    v.setting (ofEnvironment env) =
      (v.given? env).getD (v.setting (ofRoot ⟨(text? env root.key).getD "examples"⟩)) := by
  cases v with
  | root =>
    show Sum.inl ((text? env root.key).getD "examples") =
      ((text? env root.key).map Sum.inl).getD (Sum.inl ((text? env root.key).getD "examples"))
    cases text? env root.key <;> rfl
  | profile | framework | buildTool | compiler | runtime => exact (Option.getD_map ..).symm

/-- The compiler is the only setting whose default depends on the root. -/
theorem setting_ofRoot (hroot : v ≠ root) (hcompiler : v ≠ compiler) (path path' : Path) :
    v.setting (ofRoot path) = v.setting (ofRoot path') := by
  cases v with
  | root => exact absurd rfl hroot
  | compiler => exact absurd rfl hcompiler
  | buildTool | profile | framework | runtime => rfl

end Variable

/-! ## §4 What a setting depends on -/

/-- The settings depend on what counts of the environment. -/
theorem ofEnvironment_congr (h : effective env = effective env') :
    ofEnvironment env = ofEnvironment env' := by
  unfold ofEnvironment
  simp only [text?_eq, command?_eq, h]

/-- A setting depends on its own variable; the compiler depends on the root too where its own is
not set. -/
theorem setting_congr {v : Variable} (hown : env v.key = env' v.key)
    (hcompiler : v = .compiler →
      env Variable.root.key = env' Variable.root.key ∨ IsSet env Variable.compiler.key) :
    v.setting (ofEnvironment env) = v.setting (ofEnvironment env') := by
  have hgiven : v.given? env = v.given? env' := Variable.given?_congr (effective_congr hown)
  rw [Variable.setting_ofEnvironment, Variable.setting_ofEnvironment, ← hgiven]
  cases hset : v.given? env with
  | some setting => rfl
  | none =>
    rw [Option.getD_none, Option.getD_none]
    by_cases hroot : env Variable.root.key = env' Variable.root.key
    · rw [text?_eq, text?_eq, effective_congr hroot]
    · -- the roots differ, so this is not the root, and not the compiler as that is not set
      refine Variable.setting_ofRoot (fun h => hroot (h ▸ hown)) (fun h => ?_) _ _
      subst h
      obtain ⟨setting, hsome⟩ := Variable.given?_of_isSet ((hcompiler rfl).resolve_left hroot)
      simp [hset] at hsome

/-- An environment with another root. -/
def withRoot (env : Environment) (root : String) : Environment := fun key =>
  if key = Variable.root.key then some root else env key

/-- Where no compiler is given, it is that of the repository around the root. -/
theorem setting_compiler_withRoot (hset : ¬ IsSet env Variable.compiler.key) (root : String)
    (hroot : Text.allBlank root = false) :
    Variable.compiler.setting (ofEnvironment (withRoot env root)) =
      .inr (defaultCompiler ⟨Text.trim root⟩) := by
  have hunset : effective (withRoot env root) Variable.compiler.key = none := by
    rw [effective, withRoot, if_neg (by decide)]
    cases hvalue : env Variable.compiler.key with
    | none => rfl
    | some value =>
      have hblank : Text.allBlank value = true := by
        by_contra hblank
        exact hset ⟨value, hvalue, by simpa using hblank⟩
      simp [hblank]
  have hgiven : Variable.compiler.given? (withRoot env root) = none := by
    rw [Variable.given?, if_pos (by decide), command?_eq, hunset]
    rfl
  have heffective : effective (withRoot env root) Variable.root.key = some (Text.trim root) := by
    rw [effective, withRoot, if_pos rfl]
    simp [hroot]
  rw [Variable.setting_ofEnvironment, hgiven, text?_eq, heffective]
  rfl

/-- Where no compiler is given, some other root makes another compiler. -/
theorem exists_root_of_not_isSet (hset : ¬ IsSet env Variable.compiler.key) :
    ∃ env' : Environment, (∀ key, key ≠ Variable.root.key → env key = env' key) ∧
      Variable.compiler.setting (ofEnvironment env) ≠
        Variable.compiler.setting (ofEnvironment env') := by
  have hagree (root : String) (key : String) (hkey : key ≠ Variable.root.key) :
      env key = withRoot env root key := by
    rw [withRoot, if_neg hkey]
  have ha := setting_compiler_withRoot hset "a" (by decide)
  have hb := setting_compiler_withRoot hset "b" (by decide)
  -- the compilers of two roots differ, so one of them is not the one at hand
  have hne : defaultCompiler ⟨Text.trim "a"⟩ ≠ defaultCompiler ⟨Text.trim "b"⟩ := by decide
  by_cases hsame : Variable.compiler.setting (ofEnvironment env) =
      .inr (defaultCompiler ⟨Text.trim "a"⟩)
  · refine ⟨withRoot env "b", hagree "b", ?_⟩
    rw [hsame, hb]
    exact fun h => hne (Sum.inr.inj h)
  · refine ⟨withRoot env "a", hagree "a", ?_⟩
    rwa [ha]

/-! ## §5 What every setting is like -/

/-- A text that is not empty and has no blanks at its ends, or a command whose program is a word. -/
def Neat : String ⊕ Command → Prop
  | .inl text => text ≠ "" ∧ Text.Trimmed text.toList
  | .inr command => command.program ≠ "" ∧ ∀ c ∈ command.program.toList, Text.isBlank c = false

theorem neat_of_given? {v : Variable} {setting : String ⊕ Command}
    (h : v.given? env = some setting) : Neat setting := by
  unfold Variable.given? at h
  split at h
  · obtain ⟨command, hcommand, rfl⟩ := Option.map_eq_some_iff.mp h
    exact program_of_command? hcommand
  · obtain ⟨text, htext, rfl⟩ := Option.map_eq_some_iff.mp h
    exact of_text? htext

theorem neat_text {text : String} (hne : text ≠ "") (htrim : Text.trim text = text) :
    Neat (.inl text) := by
  refine ⟨hne, ?_⟩
  rw [← htrim]
  exact Text.trimmed_trim text

/-- All defaults are neat if the root is. -/
theorem neat_ofRoot {path : Path} (hpath : Neat (.inl path.text)) (v : Variable) :
    Neat (v.setting (ofRoot path)) := by
  have htext (text : String) (h : text ∈ ["Release", "net8.0"]) : Neat (.inl text) := by
    revert text
    exact List.forall_mem_cons.mpr ⟨neat_text (by decide) (by decide),
      List.forall_mem_singleton.mpr (neat_text (by decide) (by decide))⟩
  have hcommand (program : String) (args : List String) (h : program ∈ ["dotnet", "lune"]) :
      Neat (.inr ⟨program, args⟩) := by
    have hword : ∀ program ∈ ["dotnet", "lune"],
        program ≠ "" ∧ program.toList.all (fun c => !Text.isBlank c) = true := by decide
    obtain ⟨hne, hall⟩ := hword program h
    exact ⟨hne, fun c hc => by simpa using List.all_eq_true.mp hall c hc⟩
  cases v with
  | root => exact hpath
  | profile => exact htext "Release" (by decide)
  | framework => exact htext "net8.0" (by decide)
  | buildTool => exact hcommand "dotnet" _ (by decide)
  | compiler => exact hcommand "dotnet" _ (by decide)
  | runtime => exact hcommand "lune" _ (by decide)

/-- All settings are neat, whatever the environment. -/
theorem neat_setting (env : Environment) (v : Variable) :
    Neat (v.setting (ofEnvironment env)) := by
  have hroot : Neat (.inl ((text? env Variable.root.key).getD "examples")) := by
    cases htext : text? env Variable.root.key with
    | none => exact neat_text (by decide) (by decide)
    | some text => exact of_text? htext
  rw [Variable.setting_ofEnvironment]
  cases hset : v.given? env with
  | some setting => exact neat_of_given? hset
  | none => exact neat_ofRoot hroot v

/-! ## §6 Settings -/

/-- What is said of the settings that an environment gives. Only what counts of the environment
makes them. A variable alone changes its own setting alone, but for the root, which changes the
compiler too; that happens only where no compiler is given, and there it can happen. A command
variable that is set to more than blanks gives the command that its line is, and the lines that are
none are those that count as not set. Every setting is neat. -/
structure ByVariables (env : Environment) : Prop where
  effective : ∀ env', effective env = effective env' → ofEnvironment env = ofEnvironment env'
  alone : ∀ env' key, (∀ other, other ≠ key → env other = env' other) →
    ∀ v : Variable, v.key ≠ key →
      (v = .compiler → key = Variable.root.key → IsSet env Variable.compiler.key) →
        v.setting (ofEnvironment env) = v.setting (ofEnvironment env')
  rooted : ¬ IsSet env Variable.compiler.key →
    ∃ env' : Environment, (∀ key, key ≠ Variable.root.key → env key = env' key) ∧
      Variable.compiler.setting (ofEnvironment env) ≠
        Variable.compiler.setting (ofEnvironment env')
  command : ∀ v : Variable, v.isCommand = true → ∀ line, env v.key = some line →
    Text.allBlank line = false → ∃ command, Command.parse? line = some command ∧
      v.setting (ofEnvironment env) = .inr command
  blank : ∀ line, (Text.trim line = "" ↔ Text.allBlank line = true) ∧
    (Command.parse? line = none ↔ Text.allBlank line = true)
  texts : ∀ (v : Variable) text, v.setting (ofEnvironment env) = .inl text →
    text ≠ "" ∧ (∀ c ∈ text.toList.head?, Text.isBlank c = false) ∧
      ∀ c ∈ text.toList.getLast?, Text.isBlank c = false
  programs : ∀ (v : Variable) command, v.setting (ofEnvironment env) = .inr command →
    command.program ≠ "" ∧ ∀ c ∈ command.program.toList, Text.isBlank c = false

/-- The settings go by their variables. -/
theorem ofEnvironment_byVariables (env : Environment) : ByVariables env := by
  refine ⟨fun _ => ofEnvironment_congr, fun env' key hagree v hv hcompiler => ?alone,
    exists_root_of_not_isSet, fun v hv line hline hblank => ?command,
    fun line => ⟨Text.trim_eq_empty, Command.parse?_eq_none⟩, fun v text h => ?texts,
    fun v command h => ?programs⟩
  case alone =>
    refine setting_congr (hagree v.key hv) fun heq => ?_
    by_cases hkey : key = Variable.root.key
    · exact Or.inr (hcompiler heq hkey)
    · exact Or.inl (hagree _ (Ne.symm hkey))
  case command =>
    obtain ⟨command, hparse, hcommand⟩ := command?_of_isSet hline hblank
    refine ⟨command, hparse, ?_⟩
    rw [Variable.setting_ofEnvironment, Variable.given?, if_pos hv, hcommand]
    rfl
  case texts =>
    have hneat := neat_setting env v
    rw [h] at hneat
    exact hneat
  case programs =>
    have hneat := neat_setting env v
    rw [h] at hneat
    exact hneat

end Settings

end Exemplar
