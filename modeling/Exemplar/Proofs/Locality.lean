/-
Exemplar.Proofs.Locality — an example reads and writes in its own directory.

If the tools keep to an example's directory when they are called for it, then so does all that is
done for the example: how it goes depends on nothing but that directory and the way to it, and it
changes nothing outside. Times are left out of account.

  §1 the region of an example
  §2 tools that keep to a region
  §3 what an example depends on
  §4 what an example changes
-/
import Exemplar.Proofs.Agreement
import Exemplar.Proofs.Lockstep

namespace Exemplar

variable {σ : Type}

/-! ## §1 The region of an example -/

namespace Path

/-- Whether a path leads into the region below a location, on the same way as another path. -/
def LeadsInto (path : Path) (here : Location) (root : Path) (region : Location) : Prop :=
  region <:+ path.place here ∧
    ∀ location ∈ path.trail here, region <:+ location ∨ location ∈ root.trail here

/-- A path stays in a region when a part is joined to it that stays below. -/
theorem LeadsInto.join {here : Location} {root : Path} {region : Location} {path : Path}
    (hpath : path.LeadsInto here root region) {part : String} (hpart : Inward part) :
    (path / part).LeadsInto here root region := by
  obtain ⟨hplace, htrail⟩ := hpath
  have hbelow := (suffix_placeOf (path.place here) hpart.2).1
  have hentered := (suffix_placeOf (path.place here) hpart.2).2
  refine ⟨?_, ?_⟩
  · rw [place_join hpart.1]
    exact hplace.trans hbelow
  · intro location hlocation
    rw [trail_join hpart.1, List.mem_append] at hlocation
    rcases hlocation with hearlier | hlater
    · exact htrail location hearlier
    · exact Or.inl (hplace.trans (hentered location hlater))

end Path

namespace Harness

variable (h : Harness σ) (here : Location) (name : String)

/-- Where the directory of an example is. -/
def region : Location := .text name :: h.settings.root.place here

/-- The locations that matter to an example: its region, and the way to the root. -/
def Realm (location : Location) : Prop :=
  h.region here name <:+ location ∨ location ∈ h.settings.root.trail here

variable {h here name}

theorem directory_place (hname : Path.isComponent name = true) :
    (h.exampleOf name).directory.place here = h.region here name :=
  Path.place_join_component hname

theorem directory_trail (hname : Path.isComponent name = true) :
    (h.exampleOf name).directory.trail here =
      h.settings.root.trail here ++ [h.region here name] :=
  Path.trail_join_component hname

/-- The directory of an example is its region. -/
theorem directory_leadsInto (hname : Path.isComponent name = true) :
    (h.exampleOf name).directory.LeadsInto here h.settings.root (h.region here name) := by
  refine ⟨?_, ?_⟩
  · exact directory_place hname ▸ List.suffix_rfl
  · intro location hlocation
    rw [directory_trail hname, List.mem_append, List.mem_singleton] at hlocation
    rcases hlocation with hearlier | rfl
    · exact Or.inr hearlier
    · exact Or.inl List.suffix_rfl

/-- A file in the directory of an example stands right below its region. -/
theorem place_in_directory (hname : Path.isComponent name = true) {file : String}
    (hfile : Path.isComponent file = true) :
    ((h.exampleOf name).directory / file).place here = .text file :: h.region here name := by
  rw [Path.place_join_component hfile, directory_place hname]

/-- On the way to a file in the directory of an example there are the root and the region. -/
theorem approach_in_directory (hname : Path.isComponent name = true) {file : String}
    (hfile : Path.isComponent file = true) :
    ((h.exampleOf name).directory / file).approach here =
      h.settings.root.trail here ++ [h.region here name] := by
  rw [Path.approach_join hfile, directory_trail hname]

theorem script_component (hname : Path.isComponent name = true) :
    Path.isComponent (name ++ ".lua") = true :=
  Path.isComponent_append hname (by decide) (by decide)

/-- What does not end as a script does is no script. -/
theorem ne_script {file : String} (hfile : file.toList.getLast? ≠ some 'a') :
    file ≠ name ++ ".lua" := by
  rintro rfl
  simp at hfile

theorem script_place (hname : Path.isComponent name = true) :
    (h.exampleOf name).script.place here = .text (name ++ ".lua") :: h.region here name :=
  place_in_directory hname (script_component hname)

theorem script_approach (hname : Path.isComponent name = true) :
    (h.exampleOf name).script.approach here =
      h.settings.root.trail here ++ [h.region here name] :=
  approach_in_directory hname (script_component hname)

variable (here) in
/-- The artifact of an example bears its name, wherever the profile and the framework lead. -/
theorem artifact_place (hname : Path.isComponent name = true) :
    ∃ parent, (h.exampleOf name).artifact.place here = .text (name ++ ".dll") :: parent :=
  ⟨_, Path.place_join_component (Path.isComponent_append hname (by decide) (by decide))⟩

/-- Whether the artifacts of a harness stand below the directories of their examples: the profile
and the framework lead nowhere else. -/
def InwardSettings (h : Harness σ) : Prop :=
  Path.Inward h.settings.profile ∧ Path.Inward h.settings.framework

theorem artifact_leadsInto (hname : Path.isComponent name = true) (hsettings : h.InwardSettings) :
    (h.exampleOf name).artifact.LeadsInto here h.settings.root (h.region here name) := by
  have hfile : Path.Inward (name ++ ".dll") :=
    Path.inward_component (Path.isComponent_append hname (by decide) (by decide))
  exact ((((directory_leadsInto hname).join (by decide)).join hsettings.1).join hsettings.2).join
    hfile

theorem script_leadsInto (hname : Path.isComponent name = true) :
    (h.exampleOf name).script.LeadsInto here h.settings.root (h.region here name) :=
  (directory_leadsInto hname).join (Path.inward_component (script_component hname))

theorem inputFixture_leadsInto (hname : Path.isComponent name = true) :
    (h.exampleOf name).inputFixture.LeadsInto here h.settings.root (h.region here name) :=
  (directory_leadsInto hname).join (by decide)

theorem expectedFixture_leadsInto (hname : Path.isComponent name = true) :
    (h.exampleOf name).expectedFixture.LeadsInto here h.settings.root (h.region here name) :=
  (directory_leadsInto hname).join (by decide)

end Harness

/-! ## §2 Tools that keep to a region -/

/-- Whether the last argument of a call leads into a region. -/
def Call.LeadsInto (here region : Location) (call : Call) : Prop :=
  ∃ arg, call.args.getLast? = some arg ∧ region <:+ Path.place here ⟨arg⟩

/-- Tools that keep to a region in the calls that lead into it: the answer and what becomes of the
region depend on the call and on the region, nothing else changes, and no link is made. -/
structure Toolchain.KeepsTo (tools : Toolchain σ) (here region : Location) : Prop where
  outcome : ∀ {call : Call} {fs fs' : FileSystem} (a a' : σ), call.LeadsInto here region →
    fs.AgreeOn (region <:+ ·) fs' →
    (tools.execute a fs call).outcome = (tools.execute a' fs' call).outcome
  inside : ∀ {call : Call} {fs fs' : FileSystem} (a a' : σ), call.LeadsInto here region →
    fs.AgreeOn (region <:+ ·) fs' →
    (tools.execute a fs call).files.AgreeOn (region <:+ ·) (tools.execute a' fs' call).files
  outside : ∀ {call : Call} (a : σ) (fs : FileSystem), call.LeadsInto here region →
    (tools.execute a fs call).files.AgreeOn (¬ region <:+ ·) fs
  linkFree : ∀ {call : Call} {fs : FileSystem} (a : σ), call.LeadsInto here region →
    fs.LinkFree → (tools.execute a fs call).files.LinkFree

/-- Tools that find a program by its name alone and leave the files as they are. -/
def Toolchain.FindsByName (tools : Toolchain σ) : Prop :=
  ∃ find : String → Option Bytes, ∀ a fs program,
    (tools.locate a fs program).1 = find program ∧
      (tools.locate a fs program).2.2.AgreeOn (fun _ => True) fs

namespace Harness

/-- What confines an example to its region: its name is one component, its artifact stands below its
directory, the way to the root does not lead through it, and the tools keep to it. -/
structure Confined (h : Harness σ) (here : Location) (name : String) : Prop where
  component : Path.isComponent name = true
  settings : h.InwardSettings
  clear : ∀ location ∈ h.settings.root.trail here, ¬ h.region here name <:+ location
  tools : h.tools.KeepsTo here (h.region here name)
  finds : h.tools.FindsByName

variable {h : Harness σ} {here : Location} {name : String}

theorem buildCall_leadsInto (hname : Path.isComponent name = true) :
    (h.buildCall (h.exampleOf name)).LeadsInto here (h.region here name) :=
  ⟨_, Command.getLast?_argsWith _ ["-c", h.settings.profile] _, (directory_leadsInto hname).1⟩

theorem compileCall_leadsInto (hname : Path.isComponent name = true)
    (hsettings : h.InwardSettings) :
    (h.compileCall (h.exampleOf name)).LeadsInto here (h.region here name) :=
  ⟨_, Command.getLast?_argsWith _ [] _, (artifact_leadsInto hname hsettings).1⟩

theorem runCall_leadsInto (hname : Path.isComponent name = true) (program : Bytes)
    (input : String) :
    (h.runCall (h.exampleOf name) program input).LeadsInto here (h.region here name) :=
  ⟨_, Command.getLast?_argsWith _ [] _, (script_leadsInto hname).1⟩

/-! ## §3 What an example depends on -/

/-- Whether two stages are alike for an example: they have no links, and they show the same in all
that matters to it. -/
structure Alike (h : Harness σ) (here : Location) (name : String) (s t : Stage σ) : Prop where
  agree : s.files.AgreeOn (h.Realm here name) t.files
  linkFree : s.files.LinkFree
  linkFree' : t.files.LinkFree

variable {s t s' : Stage σ}

theorem Alike.ticked (halike : h.Alike here name s s') :
    h.Alike here name s.ticked s'.ticked where
  agree location hl := by
    show s.files.tick.shown location = s'.files.tick.shown location
    rw [FileSystem.shown_tick, FileSystem.shown_tick, halike.agree location hl]
  linkFree := FileSystem.linkFree_tick.mpr halike.linkFree
  linkFree' := FileSystem.linkFree_tick.mpr halike.linkFree'

/-- What the paths of an example enter is the same on stages that are alike. -/
theorem Alike.trail (halike : h.Alike here name s s') {path : Path}
    (hpath : path.LeadsInto here h.settings.root (h.region here name)) :
    s.files.AgreeOn (· ∈ path.trail here) s'.files :=
  halike.agree.mono hpath.2

/-- The fixtures of an example hold the same on stages that are alike. -/
theorem Alike.input (halike : h.Alike here name s s') (hname : Path.isComponent name = true) :
    s.files.input here (h.exampleOf name) = s'.files.input here (h.exampleOf name) := by
  unfold FileSystem.input
  rw [FileSystem.readOptional_agree halike.linkFree (halike.trail (inputFixture_leadsInto hname))]

theorem Alike.expected (halike : h.Alike here name s s') (hname : Path.isComponent name = true) :
    s.files.expected here (h.exampleOf name) = s'.files.expected here (h.exampleOf name) :=
  FileSystem.readOptional_agree halike.linkFree (halike.trail (expectedFixture_leadsInto hname))

section

variable (hconfined : h.Confined here name)
include hconfined

/-- A call for an example is answered alike, and leaves stages that are alike. -/
theorem Alike.answer (halike : h.Alike here name s s') {call : Call}
    (hcall : call.LeadsInto here (h.region here name)) :
    (s.answer h.tools call).outcome = (s'.answer h.tools call).outcome ∧
      h.Alike here name (s.answer h.tools call).stage (s'.answer h.tools call).stage := by
  have hregion : s.files.AgreeOn (h.region here name <:+ ·) s'.files :=
    halike.agree.mono fun location hl => Or.inl hl
  refine ⟨hconfined.tools.outcome _ _ hcall hregion, ?_,
    hconfined.tools.linkFree _ hcall halike.linkFree,
    hconfined.tools.linkFree _ hcall halike.linkFree'⟩
  rintro location (hinside | hway)
  · exact hconfined.tools.inside _ _ hcall hregion location hinside
  · have houtside := hconfined.clear location hway
    calc (s.answer h.tools call).files.shown location
        = s.files.shown location := hconfined.tools.outside _ _ hcall location houtside
      _ = s'.files.shown location := halike.agree location (Or.inr hway)
      _ = (s'.answer h.tools call).files.shown location :=
        (hconfined.tools.outside _ _ hcall location houtside).symm

/-- A program is found alike, and leaves stages that are alike. -/
theorem Alike.find (halike : h.Alike here name s s') (program : String) :
    (s.find h.tools program).1 = (s'.find h.tools program).1 ∧
      h.Alike here name (s.find h.tools program).2 (s'.find h.tools program).2 := by
  obtain ⟨find, hfind⟩ := hconfined.finds
  have hfiles (s : Stage σ) := (hfind s.tools s.files program).2
  refine ⟨?_, ?_, (hfiles s).linkFree halike.linkFree, (hfiles s').linkFree halike.linkFree'⟩
  · exact (hfind _ _ _).1.trans (hfind _ _ _).1.symm
  · intro location hl
    calc (s.find h.tools program).2.files.shown location
        = s.files.shown location := hfiles s location trivial
      _ = s'.files.shown location := halike.agree location hl
      _ = (s'.find h.tools program).2.files.shown location := (hfiles s' location trivial).symm

/-- The compiler's output is written alike. -/
theorem Alike.write (halike : h.Alike here name s s') (data : Bytes) :
    (∃ cause, s.files.write here (h.exampleOf name).script data = .error cause ∧
      s'.files.write here (h.exampleOf name).script data = .error cause) ∨
    ∃ files files', s.files.write here (h.exampleOf name).script data = .ok files ∧
      s'.files.write here (h.exampleOf name).script data = .ok files' ∧
      h.Alike here name ⟨s.tools, files⟩ ⟨s'.tools, files'⟩ := by
  rcases FileSystem.write_agree halike.linkFree
    (halike.trail (script_leadsInto hconfined.component)) with
    hfail | ⟨location, file, file', hput, hput', huntimed⟩
  · exact Or.inl hfail
  · refine Or.inr ⟨_, _, hput, hput', ?_, FileSystem.linkFree_put halike.linkFree _ (by simp),
      FileSystem.linkFree_put halike.linkFree' _ (by simp)⟩
    intro other hother
    exact FileSystem.shown_put (halike.agree other hother) (by rw [Node.untimed, huntimed]; rfl)

/-- An example stays in step on stages that are alike. -/
theorem Confined.inStep : h.InStep here name (h.Alike here name) (h.Alike here name) Eq where
  built halike :=
    (halike.ticked.answer hconfined (buildCall_leadsInto hconfined.component)).2
  artifact halike := FileSystem.file?_agree halike.linkFree
    (halike.trail (artifact_leadsInto hconfined.component hconfined.settings))
  compiled halike _ :=
    halike.answer hconfined (compileCall_leadsInto hconfined.component hconfined.settings)
  written data halike := halike.write hconfined data
  found halike := halike.find hconfined h.settings.runtime.program
  input halike := halike.input hconfined.component
  ran program input halike :=
    halike.answer hconfined (runCall_leadsInto hconfined.component program input)
  expected {s _} halike := by
    rw [← halike.expected hconfined.component]
    cases hexpected : s.files.expected here (h.exampleOf name) with
    | error failure => exact Or.inl ⟨failure, rfl, rfl⟩
    | ok text => exact Or.inr ⟨text, text, rfl, rfl, rfl⟩
  weaken halike := halike

/-- An example goes alike on stages that are alike. -/
theorem Course.alike {uses : List (Use σ)} {text : String} {r : Except Failure Comparison}
    (hcourse : h.Course here name s uses text r t) (halike : h.Alike here name s s') :
    ∃ uses' t', h.Course here name s' uses' text r t' ∧ h.Alike here name t t' := by
  obtain ⟨uses', text', r', t', hcourse', -, ht, hends⟩ := hcourse.inStep hconfined.inStep halike
  rcases hends with ⟨_, rfl, rfl, rfl⟩ | ⟨_, _, _, rfl, -, rfl, rfl, rfl, rfl⟩
  · exact ⟨uses', t', hcourse', ht⟩
  · exact ⟨uses', t', hcourse', ht⟩

/-! ## §4 What an example changes -/

/-- An example changes its region only, and makes no link. -/
theorem Course.outside {uses : List (Use σ)} {text : String} {r : Except Failure Comparison}
    (hcourse : h.Course here name s uses text r t) (hlinks : s.files.LinkFree) :
    t.files.LinkFree ∧ t.files.AgreeOn (¬ h.region here name <:+ ·) s.files := by
  have hcalled {u : Stage σ} {call : Call} (hcall : call.LeadsInto here (h.region here name))
      (hu : u.files.LinkFree ∧ u.files.AgreeOn (¬ h.region here name <:+ ·) s.files) :
      (u.answer h.tools call).files.LinkFree ∧
        (u.answer h.tools call).files.AgreeOn (¬ h.region here name <:+ ·) s.files :=
    ⟨hconfined.tools.linkFree _ hcall hu.1, (hconfined.tools.outside _ _ hcall).trans hu.2⟩
  refine hcourse.keeps
    (P := fun u => u.files.LinkFree ∧ u.files.AgreeOn (¬ h.region here name <:+ ·) s.files)
    ?_ ?_ ?_ ⟨hlinks, .refl _ _⟩
  · intro u hu
    refine ⟨FileSystem.linkFree_tick.mpr hu.1, fun location hl => ?_⟩
    show u.files.tick.shown location = _
    rw [FileSystem.shown_tick, hu.2 location hl]
  · intro use huse hbefore
    cases hcourse.makes use huse with
    | build u => exact hcalled (buildCall_leadsInto hconfined.component) hbefore
    | compile u =>
      exact hcalled (compileCall_leadsInto hconfined.component hconfined.settings) hbefore
    | run u program input =>
      exact hcalled (runCall_leadsInto hconfined.component program input) hbefore
    | search u =>
      obtain ⟨find, hfind⟩ := hconfined.finds
      have hfiles := (hfind u.tools u.files h.settings.runtime.program).2
      exact ⟨hfiles.linkFree hbefore.1, (hfiles.mono fun _ _ => trivial).trans hbefore.2⟩
  · intro u data files hu hwrite
    obtain ⟨⟨file, rfl⟩, -⟩ := FileSystem.write_place hu.1 hwrite
    refine ⟨FileSystem.linkFree_put hu.1 _ (by simp), fun location hl => ?_⟩
    have hne : location ≠ (h.exampleOf name).script.place here := by
      rintro rfl
      exact hl (script_leadsInto hconfined.component).1
    rw [FileSystem.shown_put_of_ne hne, hu.2 location hl]

end

end Harness

/-- The small world has no links. -/
theorem Sample.linkFree_files : files.LinkFree := by
  have hdirectories := FileSystem.linkFree_putDirectories (FileSystem.linkFree_putDirectories
    FileSystem.linkFree_empty (place ["ex", "b"]))
    (place ["ex", "a", "bin", "Release", "net8.0"])
  exact FileSystem.linkFree_put (FileSystem.linkFree_put hdirectories _ (by simp)) _ (by simp)

end Exemplar
