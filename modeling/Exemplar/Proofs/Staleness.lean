/-
Exemplar.Proofs.Staleness — scripts left from before play no part.

An example writes its script before anything reads it, and it writes all of it. So with tools that
change no file, what a script held before is never seen: two verifications that start with other
scripts go the same way, and a verification that comes right after another one repeats it.

  §1 rights
  §2 tools that change no file
  §3 stages that differ in scripts
  §4 an example in step
  §5 what a verification leaves
  §6 two verifications
  §7 tools that write out what they are given
-/
import Exemplar.Proofs.Locality
import Exemplar.Toolchain.Scripted

namespace Exemplar

variable {σ : Type}

/-! ## §1 Rights -/

namespace FileSystem

variable {fs fs' : FileSystem}

/-- The rights of the file at a location; where there is none, those that a new file has. -/
def rights (fs : FileSystem) (location : Location) : Nat :=
  match fs.node? location with
  | some (.file file) => file.rights
  | _ => 0o644

/-- A file that is put with the rights of its location changes no rights. -/
theorem rights_put {place : Location} {file : File} (hfile : file.rights = fs.rights place)
    (location : Location) : (fs.put place (.file file)).rights location = fs.rights location := by
  cases location with
  | nil => rfl
  | cons name parent =>
    by_cases heq : name :: parent = place
    · rw [rights, node?_put _ _ _ (by simp), if_pos heq, heq]
      exact hfile
    · rw [rights, node?_put _ _ _ (by simp), if_neg heq, rights]

/-- Writing changes no rights. -/
theorem rights_write {here : Location} {path : Path} {data : Bytes}
    (hwrite : fs.write here path data = .ok fs') (location : Location) :
    fs'.rights location = fs.rights location := by
  unfold write at hwrite
  split at hwrite
  · rename_i place hresolve
    obtain rfl := Except.ok.inj hwrite
    have hnone : fs.node? place = none := seen_of_walk (resolve_eq_ok.mp hresolve).2
    exact rights_put (by rw [rights, hnone]) location
  · rename_i place old hresolve
    obtain rfl := Except.ok.inj hwrite
    have hold : fs.node? place = some (.file old) := seen_of_walk (resolve_eq_ok.mp hresolve).2
    exact rights_put (by rw [rights, hold]) location
  · cases hwrite
  · cases hwrite

/-- What has the same content and the same rights shows the same. -/
theorem shown_of_content {location : Location}
    (hcontent : fs.content location = fs'.content location)
    (hrights : fs.rights location = fs'.rights location) :
    fs.shown location = fs'.shown location := by
  rcases content_eq hcontent with hsame | ⟨file, file', hfile, hfile', hdata⟩
  · rw [shown, hsame, shown]
  · have : file.rights = file'.rights := by simpa [rights, hfile, hfile'] using hrights
    simp [shown, hfile, hfile', Node.untimed, File.untimed, hdata, this]

end FileSystem

/-! ## §2 Tools that change no file -/

/-- Tools that change nothing that is seen of the files, whatever they answer. -/
structure Toolchain.Still (tools : Toolchain σ) : Prop where
  executed : ∀ (a : σ) (fs : FileSystem) (call : Call),
    (tools.execute a fs call).files.node? = fs.node?
  located : ∀ (a : σ) (fs : FileSystem) (program : String),
    (tools.locate a fs program).2.2.node? = fs.node?

/-- Tools that change no file. They find a program by its name, and what they answer depends on the
call and on what is read at its last argument. -/
structure Toolchain.Pure (tools : Toolchain σ) (here : Location) : Prop where
  outcome : ∀ {call : Call} {fs fs' : FileSystem} (a a' : σ),
    (∀ arg, call.args.getLast? = some arg → fs.read here ⟨arg⟩ = fs'.read here ⟨arg⟩) →
    (tools.execute a fs call).outcome = (tools.execute a' fs' call).outcome
  executed : ∀ (a : σ) (fs : FileSystem) (call : Call), (tools.execute a fs call).files = fs
  found : ∀ (a a' : σ) (fs fs' : FileSystem) (program : String),
    (tools.locate a fs program).1 = (tools.locate a' fs' program).1
  located : ∀ (a : σ) (fs : FileSystem) (program : String), (tools.locate a fs program).2.2 = fs

theorem Toolchain.Pure.still {tools : Toolchain σ} {here : Location} (hpure : tools.Pure here) :
    tools.Still where
  executed a fs call := by rw [hpure.executed]
  located a fs program := by rw [hpure.located]

namespace Harness

variable {h : Harness σ} {here : Location} {name : String} {names : List String}

/-- After any use of the tools the same is seen as before. -/
theorem Makes.seen {use : Use σ} {ex : Example} (hmakes : h.Makes ex use)
    (hstill : h.tools.Still) : use.after.files.node? = use.before.files.node? := by
  cases hmakes with
  | build s => exact hstill.executed _ _ _
  | compile s => exact hstill.executed _ _ _
  | search s => exact hstill.located _ _ _
  | run s program input => exact hstill.executed _ _ _

/-! ## §3 Stages that differ in scripts -/

/-- Whether two stages differ in nothing but the scripts of some examples, each of which is a file
or absent. On the way to the root there is no difference. -/
structure Stale (h : Harness σ) (here : Location) (stale : String → Prop) (s s' : Stage σ) :
    Prop where
  content : ∀ location, s.files.content location = s'.files.content location ∨
    (s.files.Leaf location ∧ s'.files.Leaf location ∧ ∃ name, stale name ∧
      Path.isComponent name = true ∧ location = (h.exampleOf name).script.place here)
  way : ∀ location ∈ h.settings.root.trail here,
    s.files.content location = s'.files.content location
  linkFree : s.files.LinkFree

variable {stale : String → Prop} {s s' : Stage σ}

namespace Stale

theorem refl (hlinks : s.files.LinkFree) : h.Stale here stale s s :=
  ⟨fun _ => Or.inl rfl, fun _ _ => rfl, hlinks⟩

/-- The way to a script that can be written holds no script. -/
theorem of_receives {files : FileSystem} (hlinks : s.files.LinkFree)
    (hnames : ∀ name ∈ names, Path.isComponent name = true)
    (hfiles : ∀ location, s.files.content location = files.content location ∨
      ∃ name ∈ names, s.files.Receives here (h.exampleOf name).script location ∧
        files.Receives here (h.exampleOf name).script location) :
    h.Stale here (· ∈ names) s ⟨s.tools, files⟩ where
  content location := by
    refine (hfiles location).imp id ?_
    rintro ⟨name, hname, hone, hother⟩
    exact ⟨hone.leaf, hother.leaf, name, hname, hnames name hname, hone.place hlinks⟩
  way location hl := by
    rcases hfiles location with hsame | ⟨name, hname, hone, -⟩
    · exact hsame
    · have hentered : location ∈ (h.exampleOf name).script.approach here := by
        rw [script_approach (hnames name hname)]
        exact List.mem_append_left _ hl
      exact absurd (hone.directory hlinks hentered) hone.leaf.ne_directory
  linkFree := hlinks

theorem mono (h' : h.Stale here stale s s') {more : String → Prop}
    (hsub : ∀ name, stale name → more name) : h.Stale here more s s' where
  content location := (h'.content location).imp id fun ⟨hleaf, hleaf', name, hname, hrest⟩ =>
    ⟨hleaf, hleaf', name, hsub name hname, hrest⟩
  way := h'.way
  linkFree := h'.linkFree

/-- Where the same is seen, so are the differences. -/
theorem congr (h' : h.Stale here stale s s') {t t' : Stage σ}
    (ht : t.files.node? = s.files.node?) (ht' : t'.files.node? = s'.files.node?) :
    h.Stale here stale t t' where
  content location := by
    simp only [FileSystem.content, FileSystem.Leaf, ht, ht']
    exact h'.content location
  way location hl := by
    simp only [FileSystem.content, ht, ht']
    exact h'.way location hl
  linkFree := by
    simp only [FileSystem.LinkFree, ht]
    exact h'.linkFree

/-- The stages differ in leaves at most. -/
theorem leafwise (h' : h.Stale here stale s s') (P : Location → Prop) :
    FileSystem.LeafwiseOn P s.files s'.files := by
  intro location _
  rcases h'.content location with hsame | ⟨hleaf, hleaf', -⟩
  · exact FileSystem.leafwise_of_content hsame
  · exact Or.inr ⟨hleaf, hleaf'⟩

/-- What is no script that may differ holds the same. -/
theorem content_of_ne (h' : h.Stale here stale s s') {location : Location}
    (hne : ∀ name, stale name → Path.isComponent name = true →
      location ≠ .text (name ++ ".lua") :: h.region here name) :
    s.files.content location = s'.files.content location := by
  rcases h'.content location with hsame | ⟨-, -, name, hname, hcomponent, rfl⟩
  · exact hsame
  · exact absurd (script_place hcomponent) (hne name hname hcomponent)

/-- The way into the directory of an example is the same. -/
theorem approach (h' : h.Stale here stale s s') (hname : Path.isComponent name = true)
    {file : String} (hfile : Path.isComponent file = true) :
    ∀ location ∈ ((h.exampleOf name).directory / file).approach here,
      (s.files.node? location).isSome = (s'.files.node? location).isSome := by
  intro location hl
  rw [approach_in_directory hname hfile, List.mem_append, List.mem_singleton] at hl
  refine FileSystem.isSome_of_content ?_
  rcases hl with hway | rfl
  · exact h'.way location hway
  · refine h'.content_of_ne fun other _ _ heq => ?_
    have := congrArg List.length heq
    simp [region] at this

/-- A file in the directory of an example that is no script that may differ is read the same. -/
theorem read (h' : h.Stale here stale s s') (hname : Path.isComponent name = true)
    {file : String} (hfile : Path.isComponent file = true)
    (hne : stale name → file ≠ name ++ ".lua") :
    s.files.read here ((h.exampleOf name).directory / file) =
      s'.files.read here ((h.exampleOf name).directory / file) := by
  refine FileSystem.read_leafwise h'.linkFree (h'.leafwise _) (h'.approach hname hfile) ?_
  rw [place_in_directory hname hfile]
  refine h'.content_of_ne fun other hother _ heq => ?_
  obtain ⟨hfile', hregion⟩ := List.cons.inj heq
  obtain rfl : name = other := by simpa [region] using hregion
  exact hne hother (Name.text.inj hfile')

/-- So is a fixture. -/
theorem fixture (h' : h.Stale here stale s s') (hname : Path.isComponent name = true)
    {file : String} (hfile : Path.isComponent file = true)
    (hend : file.toList.getLast? ≠ some 'a') :
    s.files.readOptional here ((h.exampleOf name).directory / file) =
      s'.files.readOptional here ((h.exampleOf name).directory / file) := by
  unfold FileSystem.readOptional FileSystem.readText
  rw [h'.read hname hfile fun _ => ne_script hend]

/-- The artifact of an example is not a script, so it holds the same. -/
theorem artifact (h' : h.Stale here stale s s') (hname : Path.isComponent name = true) :
    s.files.content ((h.exampleOf name).artifact.place here) =
      s'.files.content ((h.exampleOf name).artifact.place here) := by
  obtain ⟨parent, hplace⟩ := artifact_place (h := h) here hname
  rw [hplace]
  exact h'.content_of_ne fun other _ _ heq =>
    ne_script (by simp) (Name.text.inj (List.cons.inj heq).1)

/-- The scripts that may still differ once that of `name` is written. -/
def others (stale : String → Prop) (name : String) : String → Prop :=
  fun other => stale other ∧ other ≠ name

/-- Once all scripts that may differ are written, none is left. -/
theorem foldl_others (stale : String → Prop) (names : List String) (other : String) :
    names.foldl others stale other ↔ stale other ∧ other ∉ names := by
  induction names generalizing stale with
  | nil => simp
  | cons name names ih => simp [ih, others, and_assoc]

/-- Writing the script of an example takes one difference away, whatever the script held. -/
theorem write (h' : h.Stale here stale s s') (hname : Path.isComponent name = true)
    (data : Bytes) :
    (∃ cause, s.files.write here (h.exampleOf name).script data = .error cause ∧
      s'.files.write here (h.exampleOf name).script data = .error cause) ∨
    ∃ files files', s.files.write here (h.exampleOf name).script data = .ok files ∧
      s'.files.write here (h.exampleOf name).script data = .ok files' ∧
      h.Stale here (others stale name) ⟨s.tools, files⟩ ⟨s'.tools, files'⟩ := by
  rcases FileSystem.write_leafwise h'.linkFree (h'.leafwise _)
    (h'.approach hname (script_component hname)) data with
    hfail | ⟨file, file', hwrite, hwrite', hdata, hdata'⟩
  · exact Or.inl hfail
  · have hnode : (Node.file file).content = (Node.file file').content := by
      simp [Node.content, hdata, hdata']
    refine Or.inr ⟨_, _, hwrite, hwrite', fun location => ?_, fun location hl => ?_,
      FileSystem.linkFree_put h'.linkFree _ (by simp)⟩
    · by_cases hplace : location = (h.exampleOf name).script.place here
      · exact Or.inl (FileSystem.content_put (fun hother => absurd hplace hother) hnode)
      · refine (h'.content location).imp
          (fun hsame => FileSystem.content_put (fun _ => hsame) hnode) ?_
        rintro ⟨hleaf, hleaf', other, hother, hcomponent, rfl⟩
        refine ⟨hleaf.put, hleaf'.put, other, ⟨hother, ?_⟩, hcomponent, rfl⟩
        rintro rfl
        exact hplace rfl
    · exact FileSystem.content_put (fun _ => h'.way location hl) hnode

end Stale

/-! ## §4 An example in step -/

/-- With tools that change no file, an example stays in step and leaves its script the same. -/
theorem Stale.inStep (hpure : h.tools.Pure here) (hname : Path.isComponent name = true)
    (stale : String → Prop) :
    h.InStep here name (h.Stale here stale) (h.Stale here (Stale.others stale name)) Eq where
  built {s s'} hs := hs.congr (((Makes.build s).seen hpure.still).trans (funext s.files.node?_tick))
    (((Makes.build s').seen hpure.still).trans (funext s'.files.node?_tick))
  artifact hs := FileSystem.file?_leafwise hs.linkFree (hs.leafwise _)
    (FileSystem.isSome_of_content (hs.artifact hname))
  compiled {s s'} hs hfile := by
    refine ⟨hpure.outcome _ _ fun arg harg => ?_,
      hs.congr ((Makes.compile s).seen hpure.still) ((Makes.compile s').seen hpure.still)⟩
    obtain rfl := Option.some.inj (harg.symm.trans (Command.getLast?_argsWith _ [] _))
    exact FileSystem.read_of_file? hs.linkFree (hs.leafwise _) (hs.artifact hname) hfile
  written data hs := hs.write hname data
  found {s s'} hs := by
    have hseen (u : Stage σ) : (h.searching u).after.files.node? = u.files.node? :=
      congrArg _ (hpure.located _ _ _)
    exact ⟨hpure.found _ _ _ _ _, hs.congr (hseen s) (hseen s')⟩
  input hs := by
    unfold FileSystem.input
    rw [Example.inputFixture, hs.fixture hname (by decide) (by decide)]
  ran {s s'} program input hs := by
    refine ⟨hpure.outcome _ _ fun arg harg => ?_,
      hs.congr ((Makes.run s program input).seen hpure.still)
        ((Makes.run s' program input).seen hpure.still)⟩
    obtain rfl := Option.some.inj (harg.symm.trans (Command.getLast?_argsWith _ [] _))
    exact hs.read hname (script_component hname) fun hstale => absurd rfl hstale.2
  expected {s _} hs := by
    unfold FileSystem.expected
    rw [Example.expectedFixture, ← hs.fixture hname (by decide) (by decide)]
    cases s.files.readOptional here ((h.exampleOf name).directory / "output.txt") with
    | error failure => exact Or.inl ⟨failure, rfl, rfl⟩
    | ok text => exact Or.inr ⟨text, text, rfl, rfl, rfl⟩
  weaken hs := hs.mono fun _ hother => hother.1

/-! ## §5 What a verification leaves -/

/-- A script that is written makes no difference but one of a script. -/
theorem Stale.written (h' : h.Stale here stale s s') (hname : Path.isComponent name = true)
    (hstale : stale name) {data : Bytes} {files : FileSystem}
    (hwrite : s'.files.write here (h.exampleOf name).script data = .ok files) :
    h.Stale here stale s ⟨s'.tools, files⟩ := by
  have hlinks' : s'.files.LinkFree := (h'.leafwise _).linkFree h'.linkFree
  obtain ⟨⟨file, rfl⟩, hleaf', hdirectory⟩ := FileSystem.write_place hlinks' hwrite
  have hleaf : s.files.Leaf ((h.exampleOf name).script.place here) := by
    rcases h'.leafwise (fun _ => True) _ trivial with hsame | ⟨hleaf, -⟩
    · rw [FileSystem.Leaf, hsame]
      exact hleaf'
    · exact hleaf
  refine ⟨fun location => ?_, fun location hl => ?_, h'.linkFree⟩
  · by_cases hplace : location = (h.exampleOf name).script.place here
    · subst hplace
      exact Or.inr ⟨hleaf, hleaf'.put, name, hstale, hname, rfl⟩
    · show _ = (s'.files.put _ _).content location ∨ _
      rw [FileSystem.content_put_of_ne hplace]
      rcases h'.content location with hsame | ⟨hother, hother', hrest⟩
      · exact Or.inl hsame
      · exact Or.inr ⟨hother, hother'.put, hrest⟩
  · have hne : location ≠ (h.exampleOf name).script.place here := by
      rintro rfl
      refine hleaf'.ne_directory (hdirectory _ ?_)
      rw [script_approach hname]
      exact List.mem_append_left _ hl
    show _ = (s'.files.put _ _).content location
    rw [FileSystem.content_put_of_ne hne, h'.way location hl]

/-- With tools that change no file, a list of examples leaves no difference but in its scripts, and
the rights as they were. -/
theorem Courses.left {s t : Stage σ} {segments : List (List (Use σ))} {text : String}
    {ending : List Comparison × Option Failure}
    (hcourses : h.Courses here names s segments text ending t) (hpure : h.tools.Pure here)
    (hnames : ∀ name ∈ names, Path.isComponent name = true) (hlinks : s.files.LinkFree) :
    h.Stale here (· ∈ names) s t ∧ t.files.rights = s.files.rights := by
  have hsame {u v : Stage σ} (hseen : v.files.node? = u.files.node?)
      (hu : h.Stale here (· ∈ names) s u ∧ u.files.rights = s.files.rights) :
      h.Stale here (· ∈ names) s v ∧ v.files.rights = s.files.rights := by
    refine ⟨hu.1.congr rfl hseen, ?_⟩
    rw [← hu.2]
    funext location
    rw [FileSystem.rights, hseen, FileSystem.rights]
  refine hcourses.keeps
    (P := fun u => h.Stale here (· ∈ names) s u ∧ u.files.rights = s.files.rights)
    ?_ ?_ ?_ ⟨.refl hlinks, rfl⟩
  · intro u
    exact hsame (funext u.files.node?_tick)
  · intro use huse
    obtain ⟨name, -, hmakes⟩ := hcourses.makes use huse
    exact hsame (hmakes.seen hpure.still)
  · intro name hname u data files hu hwrite
    refine ⟨hu.1.written (hnames name hname) hname hwrite, ?_⟩
    rw [← hu.2]
    exact funext (FileSystem.rights_write hwrite)

/-! ## §6 Two verifications -/

/-- Two verifications ended the same: with the same result, the same uses of the tools and the same
report. If they succeeded, the files they left have the same content. -/
structure EndSame (one other : Except Failure Summary × World σ) : Prop where
  result : one.1 = other.1
  uses : one.2.uses = other.2.uses
  report : one.2.sink = other.2.sink
  content : ∀ counts, one.1 = .ok counts →
    ∀ location, one.2.files.content location = other.2.files.content location

/-- Verifications that start with a difference in scripts only end the same. -/
theorem Stale.endSame {w w' : World σ} (hpure : h.tools.Pure w.here)
    (hnames : ∀ name ∈ names, Path.isComponent name = true) (hw : w.Unlimited)
    (hstage : h.Stale w.here (· ∈ names) w.stage w'.stage) (hhere : w'.here = w.here)
    (huses : w'.uses = w.uses) (hsink : w'.sink = w.sink) :
    EndSame ((h.verify names).perform w) ((h.verify names).perform w') := by
  have hw' : w'.Unlimited := by rwa [World.Unlimited, hsink]
  rcases hrun : (h.verify names).perform w with ⟨result, after⟩
  obtain ⟨segments, text, ending, hcourses, hgained, rfl⟩ := h.verify_goes names hw hrun
  have hstep : ∀ name ∈ names, ∀ stale, h.InStep w.here name (h.Stale w.here stale)
      (h.Stale w.here (others stale name)) Eq :=
    fun name hname stale => Stale.inStep hpure (hnames name hname) stale
  obtain ⟨_, _, _, _, hcourses', hevents, -, -, hend, hsame⟩ := hcourses.inStep hstep hstage
  obtain ⟨htext, hending⟩ := hsame fun _ _ heq => heq
  subst htext
  rw [hending] at hcourses'
  rw [← hhere] at hcourses'
  obtain ⟨after', hrun', rfl, hgained'⟩ := hcourses'.performs hw'
  rw [hrun']
  refine ⟨rfl, ?_, ?_, ?_⟩
  · show after.uses = after'.uses
    rw [hgained.uses, hgained'.uses, huses, hevents]
  · show after.sink = after'.sink
    rw [hgained.sink, hgained'.sink, hsink]
  · intro counts hcounts location
    have hdone : ending.2 = none := by
      obtain ⟨comparisons, _ | failure⟩ := ending
      · rfl
      · cases hcounts
    refine (hend hdone).content_of_ne fun name hname _ _ => ?_
    rw [foldl_others] at hname
    exact hname.2 hname.1

/-- With tools that change no file, a verification leaves no difference but in scripts, and the
rights as they were. -/
theorem verify_left (h : Harness σ) (w : World σ) (hpure : h.tools.Pure w.here)
    (hnames : ∀ name ∈ names, Path.isComponent name = true) (hw : w.Unlimited)
    (hlinks : w.files.LinkFree) :
    h.Stale w.here (· ∈ names) w.stage ((h.verify names).perform w).2.stage ∧
      ((h.verify names).perform w).2.files.rights = w.files.rights ∧
      ((h.verify names).perform w).2.here = w.here := by
  rcases hrun : (h.verify names).perform w with ⟨result, after⟩
  obtain ⟨segments, text, ending, hcourses, hgained, -⟩ := h.verify_goes names hw hrun
  obtain ⟨hstale, hrights⟩ := hcourses.left hpure hnames hlinks
  exact ⟨hstale, hrights, hgained.here⟩

/-- The verification of some examples does not depend on the scripts that were there before, as long
as each was a file or absent from a directory: all ends the same, and where the files had the same
rights they show the same. To verify the examples once more changes nothing. -/
theorem verify_fresh (h : Harness σ) (w : World σ) (files' : FileSystem) (names : List String)
    (hw : w.Unlimited) (hlinks : w.files.LinkFree)
    (hnames : ∀ name ∈ names, Path.isComponent name = true) (hpure : h.tools.Pure w.here)
    (hfiles : ∀ location, w.files.content location = files'.content location ∨
      ∃ name ∈ names, w.files.Receives w.here (h.exampleOf name).script location ∧
        files'.Receives w.here (h.exampleOf name).script location) :
    (let one := (h.verify names).perform w
      let other := (h.verify names).perform { w with files := files' }
      EndSame one other ∧ ∀ counts, one.1 = .ok counts →
        one.2.files.AgreeOn (fun location => w.files.rights location = files'.rights location)
          other.2.files) ∧
    ∀ counts after, (h.verify names).perform w = (.ok counts, after) →
      let again := (h.verify names).perform { after with sink := w.sink, events := w.events }
      EndSame (.ok counts, after) again ∧ after.files.AgreeOn (fun _ => True) again.2.files := by
  have hstale : h.Stale w.here (· ∈ names) w.stage ⟨w.tools, files'⟩ :=
    .of_receives hlinks hnames hfiles
  have hlinks' : files'.LinkFree := (hstale.leafwise _).linkFree hlinks
  refine ⟨?_, ?_⟩
  · have hsame : EndSame ((h.verify names).perform w)
        ((h.verify names).perform { w with files := files' }) :=
      hstale.endSame hpure hnames hw rfl rfl rfl
    refine ⟨hsame, fun counts hcounts location hrights => ?_⟩
    have hone := (h.verify_left w hpure hnames hw hlinks).2.1
    have hother := (h.verify_left { w with files := files' } hpure hnames hw hlinks').2.1
    refine FileSystem.shown_of_content (hsame.content counts hcounts location) ?_
    rw [hone, hother, hrights]
  · intro counts after hrun again
    have hleft := h.verify_left w hpure hnames hw hlinks
    rw [hrun] at hleft
    obtain ⟨hleft, -, hhere⟩ := hleft
    have hsame : EndSame ((h.verify names).perform w) again :=
      hleft.endSame hpure hnames hw hhere rfl rfl
    rw [hrun] at hsame
    have hagain : again.2.files.rights = after.files.rights :=
      (h.verify_left { after with sink := w.sink, events := w.events } (hhere ▸ hpure) hnames hw
        ((hleft.leafwise _).linkFree hlinks)).2.1
    exact ⟨hsame, fun location _ =>
      FileSystem.shown_of_content (hsame.content counts rfl location) (by rw [hagain])⟩

end Harness

/-! ## §7 Tools that write out what they are given -/

namespace Sample

/-- Tools that write out the file that their last argument names. -/
def echoing : Toolchain Unit where
  execute _ files call :=
    { outcome := .ok ⟨some 0, Scripted.lastFile [] files call, ""⟩, state := (), files }
  locate _ files program := (some (Utf8.encode ("/bin/" ++ program)), (), files)

/-- A harness over `/ex` with these tools. -/
def echoHarness : Harness Unit := ⟨Settings.ofRoot ⟨"/ex"⟩, echoing⟩

/-- The files of the small world, with an artifact from which a fitting script comes. -/
def fresh : FileSystem :=
  files.put (place ["ex", "a", "bin", "Release", "net8.0", "a.dll"])
    (.file { data := Utf8.encode "3", stamp := .old })

/-- The world that starts with them. -/
def freshWorld : World Unit := { world with files := fresh }

/-- The same files, and a script of example `a` from before that does not fit. -/
def stale : FileSystem :=
  fresh.put (place ["ex", "a", "a.lua"]) (.file { data := Utf8.encode "4", stamp := .old })

theorem linkFree_fresh : fresh.LinkFree :=
  FileSystem.linkFree_put linkFree_files _ (by simp)

/-- The script is absent from the one and a file in the other; nothing else differs. -/
theorem stale_receives (location : Location) : fresh.content location = stale.content location ∨
    ∃ name ∈ ["a"], fresh.Receives [] (echoHarness.exampleOf name).script location ∧
      stale.Receives [] (echoHarness.exampleOf name).script location := by
  by_cases hscript : location = place ["ex", "a", "a.lua"]
  · subst hscript
    exact Or.inr ⟨"a", List.mem_cons_self, Or.inl (by decide +kernel),
      Or.inr ⟨{ data := Utf8.encode "4", stamp := .old }, by decide +kernel⟩⟩
  · exact Or.inl (FileSystem.content_put_of_ne hscript).symm

theorem echoing_pure : echoing.Pure [] where
  outcome {call fs fs'} _ _ hread := by
    have hfile : Scripted.lastFile [] fs call = Scripted.lastFile [] fs' call := by
      unfold Scripted.lastFile
      cases harg : call.args.getLast? with
      | none => rfl
      | some arg => simp only [hread arg harg]
    show Except.ok _ = Except.ok _
    rw [hfile]
  executed _ _ _ := rfl
  found _ _ _ _ _ := rfl
  located _ _ _ := rfl

end Sample

namespace Harness

/-- In the small world a script from before that does not fit is written over before it is run. -/
theorem verify_fresh_sample :
    ∃ after, (Sample.echoHarness.verify ["a"]).perform Sample.freshWorld = (.ok ⟨1, 0, 0⟩, after) ∧
      EndSame (.ok ⟨1, 0, 0⟩, after)
        ((Sample.echoHarness.verify ["a"]).perform
          { Sample.freshWorld with files := Sample.stale }) ∧
      EndSame (.ok ⟨1, 0, 0⟩, after)
        ((Sample.echoHarness.verify ["a"]).perform
          { after with sink := Sample.freshWorld.sink, events := Sample.freshWorld.events }) := by
  have hone : ((Sample.echoHarness.verify ["a"]).perform Sample.freshWorld).1 = .ok ⟨1, 0, 0⟩ := by
    decide +kernel
  obtain ⟨⟨hsame, -⟩, hagain⟩ := verify_fresh Sample.echoHarness Sample.freshWorld Sample.stale
    ["a"] rfl Sample.linkFree_fresh (by decide) Sample.echoing_pure Sample.stale_receives
  rcases hrun : (Sample.echoHarness.verify ["a"]).perform Sample.freshWorld with ⟨result, after⟩
  rw [hrun] at hone hsame
  obtain rfl : result = .ok ⟨1, 0, 0⟩ := hone
  exact ⟨after, rfl, hsame, (hagain _ after hrun).1⟩

end Harness

end Exemplar
