/-
Exemplar.Proofs.Frame — what a verification leaves as it was.

With tools that change no file, a verification changes nothing but the scripts of the examples that
it compiles, however it ends and whatever the sink takes. In the end each of these scripts holds what
the compiler gave for its example last, and nothing of what it held before.

  §1 paths and leaves
  §2 tools that leave the files alone
  §3 scripts that are written one after the other
  §4 what is out of their way
  §5 the scripts that a verification writes
  §6 a verification
-/
import Exemplar.Proofs.Staleness
import Exemplar.Proofs.Truncation

namespace Exemplar

variable {σ : Type}

/-! ## §1 Paths and leaves -/

namespace FileSystem

variable {fs fs' : FileSystem} {here : Location} {path : Path}

/-- A path takes a file at a leaf to which it leads. -/
theorem receives_iff {location : Location} : fs.Receives here path location ↔
    fs.Leaf location ∧ fs.resolve here path = .ok (fs.placeAt location) := by
  constructor
  · intro h
    refine ⟨h.leaf, ?_⟩
    rcases h with hfree | ⟨old, hold⟩
    · have hnone : fs.node? location = none := seen_of_walk (resolve_eq_ok.mp hfree).2
      rw [hfree, placeAt, hnone]
    · have hsome : fs.node? location = some (.file old) :=
        seen_of_walk (resolve_eq_ok.mp hold).2
      rw [hold, placeAt, hsome]
  · rintro ⟨hnone | ⟨file, hfile⟩, hresolve⟩
    · rw [placeAt, hnone] at hresolve
      exact Or.inl hresolve
    · rw [placeAt, hfile] at hresolve
      exact Or.inr ⟨file, hresolve⟩

section

variable (hlinks : fs.LinkFree) (hleaves : LeafwiseOn (· ∈ path.trail here) fs fs')
include hlinks hleaves

/-- A path at whose end the same stands leads to the same file, or to none. -/
theorem file?_of_place (hplace : fs.node? (path.place here) = fs'.node? (path.place here)) :
    fs.file? here path = fs'.file? here path := by
  unfold file? stat
  rcases resolve_leafwise .find hlinks hleaves with
    hsame | ⟨-, -, -, hends, hends'⟩ | ⟨-, ⟨_, hfail⟩, _, hfail'⟩
  · rw [hsame]
  · rw [hends, hends', placeAt, placeAt, hplace]
  · rw [hfail, hfail']

/-- If nothing blocks it before its end in only one of the file systems either, it leads to the
same. -/
theorem resolve_of_place (hplace : fs.node? (path.place here) = fs'.node? (path.place here))
    (happroach : ∀ location ∈ path.approach here,
      (fs.node? location).isSome = (fs'.node? location).isSome) :
    fs.resolve here path = fs'.resolve here path := by
  rcases resolve_leafwise .find hlinks hleaves with
    hsame | ⟨-, -, -, hends, hends'⟩ | ⟨⟨location, hmem, hclash⟩, -⟩
  · exact hsame
  · rw [hends, hends', placeAt, placeAt, hplace]
  · exact absurd (happroach location hmem) hclash

/-- A path that takes a file leads to the one that is there later. -/
theorem Receives.file? {file : File} (h : fs.Receives here path (path.place here))
    (hfile : fs'.node? (path.place here) = some (.file file)) :
    fs'.file? here path = some file := by
  obtain ⟨hleaf, hresolve⟩ := receives_iff.mp h
  have hends : fs'.resolve here path = .ok (fs'.placeAt (path.place here)) := by
    rcases resolve_leafwise .find hlinks hleaves with
      hsame | ⟨-, -, -, -, hends'⟩ | ⟨-, ⟨_, hfail⟩, -⟩
    · -- the same place is seen as it is in both
      have hplace : fs'.Receives here path (path.place here) := by
        unfold Receives
        rwa [← hsame]
      exact (receives_iff.mp hplace).2
    · exact hends'
    · cases hresolve.symm.trans hfail
  rw [FileSystem.file?, stat, hends, placeAt, hfile]

/-- A path that takes a file took one already when other leaves were there. -/
theorem Receives.of_leafwise (h : fs'.Receives here path (path.place here)) :
    fs.Receives here path (path.place here) := by
  rcases resolve_leafwise .find hlinks hleaves with
    hsame | ⟨-, hleaf, -, hends, -⟩ | ⟨-, -, _, hfail'⟩
  · unfold Receives
    rwa [hsame]
  · exact receives_iff.mpr ⟨hleaf, hends⟩
  · cases (receives_iff.mp h).2.symm.trans hfail'

end

/-- A walk to make a file finds the same place, if there is one. -/
theorem walk_find {links : Nat} {steps : List Step} {place : Place}
    (hwalk : fs.walk .make links here steps = .ok place) :
    fs.walk .find links here steps = .ok place := by
  induction links, here, steps using walk_induction with
  | nil links here => rwa [walk_nil] at hwalk ⊢
  | move links here step rest hstep ih =>
    rw [walk_move _ _ _ _ hstep] at hwalk ⊢
    exact ih hwalk
  | into links here name rest ih ihlinks =>
    rw [walk_into] at hwalk ⊢
    split at hwalk
    · cases hwalk
    rw [if_neg (by simp)]
    split at hwalk
    · cases hwalk
    rename_i hsize
    rw [if_neg hsize]
    rcases hnode : fs.node? (name :: here) with _ | (_ | file | target) <;> rw [hnode] at hwalk
    · exact hwalk
    · exact ih hwalk
    · exact hwalk
    · cases links with
      | zero => cases hwalk
      | succ links => exact ihlinks links (Nat.lt_succ_self links) _ _ hwalk

/-- What is written is put at the end of a path that takes a file, and the file holds it whole. -/
theorem write_put (hlinks : fs.LinkFree) {data : Bytes}
    (hwrite : fs.write here path data = .ok fs') :
    fs.Receives here path (path.place here) ∧
      ∃ file, fs' = fs.put (path.place here) (.file file) ∧ file.data = data := by
  have hfind {place : Place} (hmake : fs.resolve here path .make = .ok place) :
      fs.resolve here path = .ok place := by
    obtain ⟨hadmissible, hwalk⟩ := resolve_eq_ok.mp hmake
    exact resolve_eq_ok.mpr ⟨hadmissible, walk_find hwalk⟩
  unfold write at hwrite
  split at hwrite
  · rename_i location hmake
    have hreceives : fs.Receives here path location := Or.inl (hfind hmake)
    obtain rfl := hreceives.place hlinks
    exact ⟨hreceives, _, (Except.ok.inj hwrite).symm, rfl⟩
  · rename_i location old hmake
    have hreceives : fs.Receives here path location := Or.inr ⟨old, hfind hmake⟩
    obtain rfl := hreceives.place hlinks
    exact ⟨hreceives, _, (Except.ok.inj hwrite).symm, rfl⟩
  · cases hwrite
  · cases hwrite

end FileSystem

/-! ## §2 Tools that leave the files alone -/

namespace Harness

variable {h : Harness σ} {here : Location} {ex : Example} {s t : Stage σ} {uses : List (Use σ)}

/-- A compilation that fails changes nothing that is seen. One that does not fail writes what its
call gave to the script, and nothing else. -/
theorem Compiles.seen {r : Except Failure String} (hstill : h.tools.Still)
    (hcompile : h.Compiles here ex s uses r t) :
    (∃ failure, r = .error failure ∧ t.files.node? = s.files.node?) ∨
      ∃ (outcome : Outcome) (files : FileSystem),
        (s.answer h.tools (h.compileCall ex)).outcome = .ok outcome ∧
        r = .ok outcome.stdout ∧ files.node? = s.files.node? ∧
        files.write here ex.script (Utf8.encode outcome.stdout) = .ok t.files := by
  have hcall : (h.compiling ex s).after.files.node? = s.files.node? :=
    (Makes.compile s).seen hstill
  cases hcompile with
  | missing _ => exact Or.inl ⟨_, rfl, rfl⟩
  | unstarted _ _ => exact Or.inl ⟨_, rfl, hcall⟩
  | failed _ _ _ => exact Or.inl ⟨_, rfl, hcall⟩
  | unwritable _ _ _ _ => exact Or.inl ⟨_, rfl, hcall⟩
  | written _ hanswer _ hwrite => exact Or.inr ⟨_, _, hanswer, rfl, hcall, hwrite⟩

/-- Running a script changes nothing that is seen. -/
theorem Runs.seen {r : Except Failure String} (hstill : h.tools.Still)
    (hrun : h.Runs here ex s uses r t) : t.files.node? = s.files.node? := by
  refine hrun.keeps (P := fun u => u.files.node? = s.files.node?) (fun use huse hbefore => ?_) rfl
  exact ((hrun.makes use huse).seen hstill).trans hbefore

/-! ## §3 Scripts that are written one after the other -/

/-- Whether files come from others by writing some scripts, each for the example of a name: nothing
else is changed, each script was a file or absent, and it holds what was written for it last. -/
structure Rewritten (h : Harness σ) (here : Location) (scripts : List (String × String))
    (fs fs' : FileSystem) : Prop where
  linkFree : fs.LinkFree
  component : ∀ name text, (name, text) ∈ scripts → Path.isComponent name = true
  receives : ∀ name text, (name, text) ∈ scripts →
    fs.Receives here (h.exampleOf name).script ((h.exampleOf name).script.place here)
  rest : ∀ location,
    (∀ name text, (name, text) ∈ scripts → location ≠ (h.exampleOf name).script.place here) →
    fs'.node? location = fs.node? location
  last : ∀ name text, scripts.reverse.lookup name = some text →
    ∃ file, fs'.node? ((h.exampleOf name).script.place here) = some (.file file) ∧
      file.data = Utf8.encode text

variable {scripts : List (String × String)} {fs fs' fs'' : FileSystem} {name : String}

/-- Scripts of two examples stand at two places. -/
theorem script_place_inj {other : String} (hname : Path.isComponent name = true)
    (hother : Path.isComponent other = true)
    (hplace : (h.exampleOf name).script.place here = (h.exampleOf other).script.place here) :
    name = other := by
  rw [script_place hname, script_place hother] at hplace
  simpa [region] using (List.cons.inj hplace).2

namespace Rewritten

theorem refl (hlinks : fs.LinkFree) : h.Rewritten here [] fs fs where
  linkFree := hlinks
  component _ _ hmem := by cases hmem
  receives _ _ hmem := by cases hmem
  rest _ _ := rfl
  last _ _ hlast := by cases hlast

theorem congr (h' : h.Rewritten here scripts fs fs') (hseen : fs''.node? = fs'.node?) :
    h.Rewritten here scripts fs fs'' :=
  { h' with
    rest := fun location hne => by rw [hseen, h'.rest location hne]
    last := fun name text hlast => by rw [hseen]; exact h'.last name text hlast }

/-- What was written last for a name was written. -/
theorem mem_of_last {text : String} (hlast : scripts.reverse.lookup name = some text) :
    (name, text) ∈ scripts := by
  obtain ⟨later, earlier, hscripts, -⟩ := List.lookup_eq_some_iff.mp hlast
  rw [← List.mem_reverse, hscripts]
  exact List.mem_append_right _ List.mem_cons_self

/-- A location holds the same as before, or a script is written there, to a leaf. -/
theorem cases (h' : h.Rewritten here scripts fs fs') (location : Location) :
    fs'.node? location = fs.node? location ∨
      (fs.Leaf location ∧ fs'.Leaf location ∧ ∃ name text, (name, text) ∈ scripts ∧
        location = (h.exampleOf name).script.place here) := by
  by_cases hscript : ∃ name text, (name, text) ∈ scripts ∧
      location = (h.exampleOf name).script.place here
  · obtain ⟨name, text, hmem, hplace⟩ := hscript
    subst hplace
    obtain ⟨last, hlast⟩ : ∃ last, scripts.reverse.lookup name = some last := by
      rw [← Option.isSome_iff_exists, List.lookup_isSome_iff]
      exact ⟨(name, text), List.mem_reverse.mpr hmem, by simp⟩
    obtain ⟨file, hfile, -⟩ := h'.last name last hlast
    exact Or.inr ⟨(h'.receives name text hmem).leaf, Or.inr ⟨file, hfile⟩, name, text, hmem, rfl⟩
  · exact Or.inl (h'.rest location fun name text hmem heq => hscript ⟨name, text, hmem, heq⟩)

theorem leafwise (h' : h.Rewritten here scripts fs fs') (P : Location → Prop) :
    FileSystem.LeafwiseOn P fs fs' :=
  fun location _ => (h'.cases location).imp Eq.symm fun ⟨hleaf, hleaf', _⟩ => ⟨hleaf, hleaf'⟩

/-- One more script is written. -/
theorem write (h' : h.Rewritten here scripts fs fs') (hname : Path.isComponent name = true)
    {text : String}
    (hwrite : fs'.write here (h.exampleOf name).script (Utf8.encode text) = .ok fs'') :
    h.Rewritten here (scripts ++ [(name, text)]) fs fs'' := by
  have hlinks' : fs'.LinkFree := (h'.leafwise _).linkFree h'.linkFree
  obtain ⟨hreceives, file, rfl, hdata⟩ := FileSystem.write_put hlinks' hwrite
  have hmem {other : String} {line : String} (hother : (other, line) ∈ scripts ++ [(name, text)]) :
      (other, line) ∈ scripts ∨ other = name := by
    rw [List.mem_append, List.mem_singleton] at hother
    exact hother.imp id fun heq => (Prod.mk.inj heq).1
  refine ⟨h'.linkFree, fun other line hother => ?_, fun other line hother => ?_,
    fun location hne => ?_, fun other line hlast => ?_⟩
  · rcases hmem hother with hbefore | rfl
    · exact h'.component other line hbefore
    · exact hname
  · rcases hmem hother with hbefore | rfl
    · exact h'.receives other line hbefore
    · exact hreceives.of_leafwise h'.linkFree (h'.leafwise _)
  · rw [FileSystem.node?_put_of_ne (hne name text (by simp))]
    exact h'.rest location fun other line hother => hne other line (by simp [hother])
  · rw [List.reverse_append, List.reverse_singleton, List.singleton_append,
      List.lookup_cons] at hlast
    by_cases hsame : other = name
    · subst hsame
      obtain rfl : text = line := by simpa using hlast
      refine ⟨file, ?_, hdata⟩
      rw [script_place hname, FileSystem.node?_put _ _ _ (by simp), if_pos rfl]
    · have hbefore : scripts.reverse.lookup other = some line := by
        simpa [beq_eq_false_iff_ne.mpr hsame] using hlast
      obtain ⟨old, hold, hline⟩ := h'.last other line hbefore
      have hcomponent := h'.component other line (mem_of_last hbefore)
      refine ⟨old, ?_, hline⟩
      rw [FileSystem.node?_put_of_ne fun heq => hsame (script_place_inj hcomponent hname heq)]
      exact hold

/-! ## §4 What is out of their way -/

variable (h' : h.Rewritten here scripts fs fs')
include h'

/-- On the way into the directory of an example no script is written. -/
theorem approach (hname : Path.isComponent name = true) {file : String}
    (hfile : Path.isComponent file = true) :
    ∀ location ∈ ((h.exampleOf name).directory / file).approach here,
      fs'.node? location = fs.node? location := by
  intro location hl
  rw [approach_in_directory hname hfile, List.mem_append, List.mem_singleton] at hl
  rcases h'.cases location with hsame | ⟨hleaf, -, other, text, hmem, hplace⟩
  · exact hsame
  rcases hl with hway | rfl
  · -- the way to the root is also the way to the script, and goes through directories
    have hentered : location ∈ (h.exampleOf other).script.approach here := by
      rw [script_approach (h'.component other text hmem)]
      exact List.mem_append_left _ hway
    exact absurd ((h'.receives other text hmem).directory h'.linkFree hentered) hleaf.ne_directory
  · rw [script_place (h'.component other text hmem)] at hplace
    have := congrArg List.length hplace
    simp [region] at this

/-- A path to a file in the directory of an example leads to the same, unless the file is a script
that is written. -/
theorem resolve (hname : Path.isComponent name = true) {file : String}
    (hfile : Path.isComponent file = true)
    (hne : ∀ text, (name, text) ∈ scripts → file ≠ name ++ ".lua") :
    fs'.resolve here ((h.exampleOf name).directory / file) =
      fs.resolve here ((h.exampleOf name).directory / file) := by
  refine (FileSystem.resolve_of_place h'.linkFree (h'.leafwise _) ?_ fun location hl => ?_).symm
  · rw [place_in_directory hname hfile]
    refine (h'.rest _ fun other text hmem heq => ?_).symm
    rw [script_place (h'.component other text hmem)] at heq
    obtain ⟨hfile', hregion⟩ := List.cons.inj heq
    obtain rfl : name = other := by simpa [region] using hregion
    exact hne text hmem (Name.text.inj hfile')
  · rw [h'.approach hname hfile location hl]

/-- No artifact is a script. -/
theorem artifact (hname : Path.isComponent name = true) :
    fs'.file? here (h.exampleOf name).artifact = fs.file? here (h.exampleOf name).artifact := by
  refine (FileSystem.file?_of_place h'.linkFree (h'.leafwise _) ?_).symm
  obtain ⟨parent, hplace⟩ := artifact_place (h := h) here hname
  rw [hplace]
  refine (h'.rest _ fun other text hmem heq => ?_).symm
  rw [script_place (h'.component other text hmem)] at heq
  exact ne_script (by simp) (Name.text.inj (List.cons.inj heq).1)

end Rewritten

/-! ## §5 The scripts that a verification writes -/

variable (h)

/-- What the compiler gives for an example that is verified in some world, if it is compiled there
without a failure. -/
def compiled? (name : String) (w : World σ) : Option String :=
  match (h.build (h.exampleOf name)).perform w with
  | (.ok built, v) =>
    let v := v.noted (.log (buildRecord name built))
    match (h.compile (h.exampleOf name) (some built)).perform v,
        (v.stage.answer h.tools (h.compileCall (h.exampleOf name))).outcome with
    | (.ok _, _), .ok outcome => some outcome.stdout
    | _, _ => none
  | (.error _, _) => none

/-- The compilations without a failure in a verification of some examples, in order: the name of the
example, and what the compiler gave for it. -/
def compilations : List String → World σ → List (String × String)
  | [], _ => []
  | name :: names, w =>
    ((h.compiled? name w).map (name, ·)).toList ++
      match (h.verifyOne name).perform w with
      | (.ok _, after) => compilations names after
      | (.error _, _) => []

end Harness

namespace Session

/-- A session that changes nothing that is seen of the files. -/
def LeavesFiles {α : Type} (x : Session σ α) : Prop :=
  ∀ w : World σ, (x.perform w).2.files.node? = w.files.node? ∧ (x.perform w).2.here = w.here

namespace LeavesFiles

variable {α β : Type}

theorem bind {x : Session σ α} {f : α → Session σ β} (hx : LeavesFiles x)
    (hf : ∀ a, LeavesFiles (f a)) : LeavesFiles (x >>= f) := by
  intro w
  obtain ⟨hfiles, hhere⟩ := hx w
  rw [perform_bind]
  rcases hperform : x.perform w with ⟨_ | a, v⟩ <;> rw [hperform] at hfiles hhere
  · exact ⟨hfiles, hhere⟩
  · obtain ⟨hfiles', hhere'⟩ := hf a v
    exact ⟨hfiles'.trans hfiles, hhere'.trans hhere⟩

theorem tell (text : String) : LeavesFiles (tell (σ := σ) text) := by
  intro w
  rw [perform_tell_any]
  exact ⟨rfl, rfl⟩

theorem pure (a : α) : LeavesFiles (Pure.pure a : Session σ α) := fun _ => ⟨rfl, rfl⟩

theorem consult (f : FileSystem → Location → Except Failure α) :
    LeavesFiles (Session.consult (σ := σ) f) := fun _ => ⟨rfl, rfl⟩

end LeavesFiles

end Session

namespace Harness

open Session

variable {h : Harness σ} {scripts : List (String × String)} {fs : FileSystem} {name : String}
  {names : List String} {w : World σ}

theorem build_leavesFiles (hstill : h.tools.Still) (ex : Example) : LeavesFiles (h.build ex) := by
  intro w
  rcases hrun : (h.build ex).perform w with ⟨r, after⟩
  obtain ⟨-, hstage, hgained⟩ := h.build_goes ex hrun
  refine ⟨?_, hgained.here⟩
  have hfiles : after.files = (h.building ex w.stage).after.files := congrArg Stage.files hstage
  rw [hfiles, (Makes.build w.stage).seen hstill]
  exact funext w.files.node?_tick

theorem run_leavesFiles (hstill : h.tools.Still) (ex : Example) : LeavesFiles (h.run ex) := by
  intro w
  rcases hrun : (h.run ex).perform w with ⟨r, after⟩
  obtain ⟨_, hruns, hgained⟩ := h.run_goes ex hrun
  exact ⟨hruns.seen hstill, hgained.here⟩

/-- A compilation that fails leaves the files as they were. -/
theorem compile_failed (hstill : h.tools.Still) {ex : Example} {built : Option Build}
    {failure : Failure} {after : World σ}
    (hrun : (h.compile ex built).perform w = (.error failure, after)) :
    after.files.node? = w.files.node? := by
  obtain ⟨_, hcompiles, -⟩ := h.compile_goes ex built hrun
  rcases hcompiles.seen hstill with ⟨_, -, hseen⟩ | ⟨_, _, -, hr, -⟩
  · exact hseen
  · cases hr

/-- An example writes its script if it is compiled without a failure, and nothing else. -/
theorem verifyOne_rewrites (hstill : h.tools.Still) (hname : Path.isComponent name = true)
    (h' : h.Rewritten w.here scripts fs w.files) {r : Except Failure Verdict} {after : World σ}
    (hrun : (h.verifyOne name).perform w = (r, after)) :
    h.Rewritten w.here (scripts ++ ((h.compiled? name w).map (name, ·)).toList) fs after.files ∧
      after.here = w.here := by
  rw [verifyOne] at hrun
  rcases perform_bind_cases hrun with ⟨built, v, hbuild, hrest⟩ | ⟨failure, hbuild, -⟩
  case inr =>
    obtain ⟨⟨_, hbuilt⟩, -⟩ := h.build_goes _ hbuild
    cases hbuilt
  obtain ⟨hseen, hhere⟩ := build_leavesFiles hstill (h.exampleOf name) w
  rw [hbuild] at hseen hhere
  have hv : h.Rewritten w.here scripts fs v.files := h'.congr hseen
  rw [perform_bind, perform_log] at hrest
  replace hrest : (_ >>= _ : Session σ Verdict).perform
    (v.noted (.log (buildRecord name built))) = (r, after) := hrest
  unfold compiled?
  rw [hbuild]
  dsimp only
  rcases perform_bind_cases hrest with ⟨script, u, hcompile, hend⟩ | ⟨failure, hcompile, -⟩
  · obtain ⟨_, hcompiles, hgained⟩ := h.compile_goes _ _ hcompile
    rcases hcompiles.seen hstill with ⟨_, hr, -⟩ | ⟨outcome, files, hanswer, -, hfiles, hwrite⟩
    · cases hr
    rw [World.here_noted, hhere] at hwrite
    have hwritten := (hv.congr hfiles).write hname hwrite
    -- what comes after the script is written leaves the files as they are
    have hleft : after.files.node? = u.files.node? ∧ after.here = u.here := by
      rw [show after = _ from (congrArg Prod.snd hend).symm]
      refine LeavesFiles.bind (.tell _) (fun _ => ?_) u
      refine .bind (run_leavesFiles hstill _) fun actual => .bind (.consult _) fun expected => ?_
      exact .bind (.tell _) fun _ => .pure _
    rw [hcompile, hanswer]
    exact ⟨hwritten.congr hleft.1, hleft.2.trans (hgained.here.trans hhere)⟩
  · obtain ⟨_, -, hgained⟩ := h.compile_goes _ _ hcompile
    have hfiles := compile_failed hstill hcompile
    rw [hcompile, Option.map_none, Option.toList_none, List.append_nil]
    exact ⟨hv.congr hfiles, hgained.here.trans hhere⟩

/-- A list of examples writes the scripts of those that are compiled without a failure. -/
theorem verifyFrom_rewrites (hstill : h.tools.Still)
    (hnames : ∀ name ∈ names, Path.isComponent name = true) (counts : Summary)
    (h' : h.Rewritten w.here scripts fs w.files) :
    h.Rewritten w.here (scripts ++ h.compilations names w) fs
      ((h.verifyFrom counts names).perform w).2.files := by
  induction names generalizing scripts counts w with
  | nil =>
    rw [compilations, List.append_nil]
    exact h'
  | cons name names ih =>
    rw [verifyFrom, perform_bind, compilations, ← List.append_assoc]
    rcases hone : (h.verifyOne name).perform w with ⟨failure | verdict, v⟩ <;>
      obtain ⟨hwritten, hhere⟩ :=
        verifyOne_rewrites hstill (hnames name List.mem_cons_self) h' hone
    · rw [List.append_nil]
      exact hwritten
    · rw [← hhere] at hwritten ⊢
      exact ih (fun other hother => hnames other (List.mem_cons_of_mem _ hother)) _ hwritten

/-! ## §6 A verification -/

/-- What is said of the files before and after some examples were compiled, with the name of each
example and what the compiler gave for it, in order. Nothing is changed but scripts of these
examples; each of them is a file that holds what was compiled last for the example, and nothing else.
So the artifact and the fixtures of every example are what they were, and so is every other
script. -/
structure Framed (h : Harness σ) (here : Location) (compiled : List (String × String))
    (before after : FileSystem) : Prop where
  rest : ∀ location,
    (∀ name text, (name, text) ∈ compiled → location ≠ (h.exampleOf name).script.place here) →
    after.node? location = before.node? location
  script : ∀ name text, compiled.reverse.lookup name = some text →
    ∃ file, after.node? ((h.exampleOf name).script.place here) = some (.file file) ∧
      after.file? here (h.exampleOf name).script = some file ∧ file.data = Utf8.encode text
  artifact : ∀ name, Path.isComponent name = true →
    after.file? here (h.exampleOf name).artifact = before.file? here (h.exampleOf name).artifact
  fixture : ∀ name, Path.isComponent name = true →
    after.resolve here (h.exampleOf name).inputFixture =
      before.resolve here (h.exampleOf name).inputFixture ∧
    after.resolve here (h.exampleOf name).expectedFixture =
      before.resolve here (h.exampleOf name).expectedFixture
  other : ∀ name, Path.isComponent name = true → (∀ text, (name, text) ∉ compiled) →
    after.resolve here (h.exampleOf name).script = before.resolve here (h.exampleOf name).script

theorem Rewritten.framed {here : Location} {fs' : FileSystem}
    (h' : h.Rewritten here scripts fs fs') : h.Framed here scripts fs fs' where
  rest := h'.rest
  script name text hlast := by
    obtain ⟨file, hfile, hdata⟩ := h'.last name text hlast
    refine ⟨file, hfile, ?_, hdata⟩
    exact (h'.receives name text (mem_of_last hlast)).file? h'.linkFree (h'.leafwise _) hfile
  artifact name hname := h'.artifact hname
  fixture name hname :=
    ⟨h'.resolve hname (by decide) fun _ _ => ne_script (by decide),
      h'.resolve hname (by decide) fun _ _ => ne_script (by decide)⟩
  other name hname hnone :=
    h'.resolve hname (script_component hname) fun text hmem => absurd hmem (hnone text)

/-- With tools that change no file, a verification changes nothing but the scripts of the examples
that it compiles, whether it fails or not and whatever the sink takes; and a compilation that fails
changes nothing at all. -/
theorem verify_framed (h : Harness σ) (names : List String) (w : World σ)
    (hnames : ∀ name ∈ names, Path.isComponent name = true) (hlinks : w.files.LinkFree)
    (hstill : h.tools.Still) :
    h.Framed w.here (h.compilations names w) w.files ((h.verify names).perform w).2.files ∧
      ∀ ex built v failure after, (h.compile ex built).perform v = (.error failure, after) →
        after.files.node? = v.files.node? :=
  ⟨(verifyFrom_rewrites hstill hnames {} (.refl hlinks)).framed,
    fun _ _ _ _ _ hrun => compile_failed hstill hrun⟩

end Harness

/-- The small world with a script from before that is longer than what the compiler gives, and with a
sink that takes nothing. -/
def Sample.overlong : World Unit :=
  { freshWorld with
    files := fresh.put (place ["ex", "a", "a.lua"])
      (.file { data := Utf8.encode "3 and more", stamp := .old })
    sink := { limit := some 0 } }

namespace Harness

/-- In the small world the script from before is longer than what the compiler gives. Although the
sink takes nothing at all, it is written over as a whole. -/
theorem verify_framed_sample :
    (∀ name ∈ ["a"], Path.isComponent name = true) ∧ Sample.overlong.files.LinkFree ∧
    Sample.echoHarness.tools.Still ∧
    Sample.echoHarness.compilations ["a"] Sample.overlong = [("a", "3")] ∧
    Sample.overlong.files.read [] ⟨"/ex/a/a.lua"⟩ = .ok (Utf8.encode "3 and more") ∧
    let (result, after) := (Sample.echoHarness.verify ["a"]).perform Sample.overlong
    result = .error (.access ⟨"<stdout>"⟩ .sinkFull) ∧
      Sample.echoHarness.Framed [] [("a", "3")] Sample.overlong.files after.files ∧
      after.files.read [] ⟨"/ex/a/a.lua"⟩ = .ok (Utf8.encode "3") := by
  have hnames : ∀ name ∈ ["a"], Path.isComponent name = true := by decide
  have hlinks : Sample.overlong.files.LinkFree :=
    FileSystem.linkFree_put Sample.linkFree_fresh _ (by simp)
  have hstill : Sample.echoHarness.tools.Still := Sample.echoing_pure.still
  have hcompiled : Sample.echoHarness.compilations ["a"] Sample.overlong = [("a", "3")] := by
    decide +kernel
  have hframed := (verify_framed Sample.echoHarness ["a"] Sample.overlong hnames hlinks hstill).1
  rw [hcompiled] at hframed
  exact ⟨hnames, hlinks, hstill, hcompiled, by decide +kernel, by decide +kernel, hframed,
    by decide +kernel⟩

end Harness

end Exemplar
