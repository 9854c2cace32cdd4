/-
Exemplar.Proofs.Batch — all examples at once, and each on its own.

A verification of all examples goes over the registry that it found at its start. Verifications of
single examples find and select their example anew, in the files that the ones before have left. As
long as the directories of the examples stay directories, both come to the same.

  §1 finding an example again
  §2 what keeps the directories of the examples
  §3 one verification for each example
  §4 one verification for all
-/
import Exemplar.Proofs.Course
import Exemplar.Proofs.Selection
import Exemplar.Proofs.Walk

namespace Exemplar

variable {σ : Type}

/-! ## §1 Finding an example again -/

namespace FileSystem

/-- Whether the names of all entries are single components of paths. The system has no others. -/
def WellNamed (fs : FileSystem) : Prop :=
  ∀ name location, fs.node? (.text name :: location) ≠ none → Path.isComponent name = true

/-- Something is seen below the root if there is an entry for it. -/
theorem node?_ne_none {fs : FileSystem} {location : Location} {name : Name} :
    fs.node? (name :: location) ≠ none ↔ ∃ entry ∈ fs.entries, entry.1 = name :: location := by
  show fs.entries.lookup (name :: location) ≠ none ↔ _
  rw [Option.ne_none_iff_isSome, List.lookup_isSome_iff]
  refine exists_congr fun entry => and_congr_right fun _ => ?_
  rw [beq_iff_eq]
  exact eq_comm

/-- A name is listed in a directory if something stands there under it. -/
theorem mem_children {fs : FileSystem} {location : Location} {name : Name} :
    name ∈ fs.children location ↔ fs.node? (name :: location) ≠ none := by
  rw [node?_ne_none, children, List.mem_filterMap]
  refine exists_congr fun entry => and_congr_right fun _ => ?_
  obtain ⟨_ | ⟨other, parent⟩, node⟩ := entry
  · simp
  · simp [and_comm]

/-- A path to an entry passes the directory of the entry, from which one step is left. -/
theorem resolve_component {fs : FileSystem} {here : Location} {root : Path} {name : String}
    {place : Place} (hroot : Admissible root) (hname : Path.isComponent name = true)
    (hresolve : fs.resolve here (root / name) = .ok place) :
    ∃ links parent, fs.resolve here root = .ok (.taken parent .directory) ∧
      fs.walk .find links parent [.into (.text name)] = .ok place := by
  have hhead := Path.head_component hname
  obtain ⟨-, hwalk⟩ := resolve_eq_ok.mp hresolve
  obtain ⟨front, tail, hsteps, htail, hjoined⟩ := Path.steps_join root hhead
  rw [hjoined, Path.origin_join hhead, Path.steps_component hname] at hwalk
  obtain ⟨links, parent, hpass⟩ := fs.walk_append (by simp) hwalk
  refine ⟨links, parent, resolve_eq_ok.mpr ⟨hroot, ?_⟩, by rw [← hpass, hwalk]⟩
  rw [hsteps, hpass tail]
  rcases htail with rfl | rfl
  · exact fs.walk_nil _ _ _
  · rw [walk_move _ _ _ _ (by simp)]
    exact fs.walk_nil _ _ _

end FileSystem

namespace Registry

variable {fs : FileSystem} {here : Location} {root : Path} {registry : Registry}

/-- What is discovered is the name of an entry that leads to a directory, and the root is looked
at. -/
theorem of_discover (hdiscover : discover fs here root = .ok registry) :
    FileSystem.Admissible root ∧ ∃ location, ∀ name ∈ registry,
      fs.node? (.text name :: location) ≠ none ∧ fs.isDirectory here (root / name) = true := by
  unfold discover FileSystem.list at hdiscover
  cases hresolve : fs.resolve here root with
  | error cause => simp [hresolve] at hdiscover
  | ok place =>
    rcases place with ⟨location, _ | _ | _⟩ | _ <;> simp only [hresolve, reduceCtorEq] at hdiscover
    refine ⟨(FileSystem.resolve_eq_ok.mp hresolve).1, location, ?_⟩
    intro name hname
    obtain rfl := Except.ok.inj hdiscover
    obtain ⟨entry, hlisted, hentry⟩ := List.mem_filterMap.mp hname
    unfold exampleName? at hentry
    rcases entry with text | bytes
    · dsimp only [Name.text?] at hentry
      split at hentry
      · rename_i hdirectory
        obtain rfl := Option.some.inj hentry
        exact ⟨FileSystem.mem_children.mp hlisted, hdirectory⟩
      · cases hentry
    · cases hentry

/-- An example whose name is one component is discovered where its directory is one. -/
theorem discover_of_isDirectory {name : String} (hroot : FileSystem.Admissible root)
    (hname : Path.isComponent name = true)
    (hdirectory : fs.isDirectory here (root / name) = true) :
    ∃ registry, discover fs here root = .ok registry ∧ name ∈ registry := by
  obtain ⟨location, hresolve⟩ := FileSystem.isDirectory_iff.mp hdirectory
  obtain ⟨links, parent, hlisted, hwalk⟩ := FileSystem.resolve_component hroot hname hresolve
  have hentry : fs.node? (.text name :: parent) ≠ none := by
    intro hnone
    rw [FileSystem.walk_into, hnone] at hwalk
    split at hwalk
    · cases hwalk
    split at hwalk <;> cases hwalk
  refine ⟨_, by rw [discover, FileSystem.list, hlisted], ?_⟩
  refine List.mem_filterMap.mpr ⟨.text name, FileSystem.mem_children.mpr hentry, ?_⟩
  simp [exampleName?, Name.text?, hdirectory]

end Registry

namespace Harness

variable (h : Harness σ)

/-! ## §2 What keeps the directories of the examples -/

/-- Whether some uses of the tools leave the directories of some examples directories. -/
def KeepsExamples (here : Location) (names : List String) (uses : List (Use σ)) : Prop :=
  ∀ use ∈ uses, ∀ name ∈ names, use.before.files.isDirectory here (h.settings.root / name) = true →
    use.after.files.isDirectory here (h.settings.root / name) = true

variable {h}

/-- Whether the directories of some examples are directories on a stage. -/
def HasExamples (h : Harness σ) (here : Location) (names : List String) (s : Stage σ) : Prop :=
  ∀ name ∈ names, s.files.isDirectory here (h.settings.root / name) = true

/-- The directories of the examples outlast an example whose uses of the tools keep them. -/
theorem Course.hasExamples {here : Location} {name : String} {names : List String} {s t : Stage σ}
    {uses : List (Use σ)} {text : String} {r : Except Failure Comparison}
    (hcourse : h.Course here name s uses text r t) (hkeeps : h.KeepsExamples here names uses)
    (hs : h.HasExamples here names s) : h.HasExamples here names t := by
  refine hcourse.keeps (P := h.HasExamples here names) ?_ ?_ ?_ hs
  · intro s hs name hname
    exact (FileSystem.keeps_tick s.files).isDirectory (hs name hname)
  · intro use huse hbefore name hname
    exact hkeeps use huse name hname (hbefore name hname)
  · intro s data files hs hwrite name hname
    exact (FileSystem.keeps_write hwrite).isDirectory (hs name hname)

/-! ## §3 One verification for each example -/

/-- Verifies each of some examples on its own, in order, up to the first failure: the counts of each
of them. -/
def runEach (h : Harness σ) : List String → Session σ (List Summary)
  | [] => pure []
  | name :: names => do
    let counts ← h.verifySelected name
    let others ← h.runEach names
    pure (counts :: others)

/-- Whether an example can be asked for by its name: the name is in normal form, and it is not the
word that means all of them. -/
def Askable (name : String) : Prop :=
  Registry.normalForm name = name ∧ name ≠ "all"

/-- Where its directory is one, an example's name selects it. -/
theorem selection_one {w : World σ} {name : String} (hcomponent : Path.isComponent name = true)
    (hname : Askable name) (hroot : FileSystem.Admissible h.settings.root)
    (hdirectory : w.files.isDirectory w.here (h.settings.root / name) = true) :
    ∃ registry, h.selection w name = .ok (registry, .one name) := by
  obtain ⟨registry, hdiscover, hmem⟩ :=
    Registry.discover_of_isDirectory hroot hcomponent hdirectory
  refine ⟨registry, ?_⟩
  rw [selection, hdiscover]
  simp [Registry.select_eq_one.mpr ⟨hname.1, hname.2, hmem⟩, Except.map]

/-- Verifying an example on its own goes as that example goes in a list. -/
theorem verifySelected_one {w after : World σ} {name : String} {t : Stage σ} {uses : List (Use σ)}
    {text : String} {r : Except Failure Comparison} {result : Except Failure Summary}
    {registry : Registry} (hw : w.Unlimited)
    (hselection : h.selection w name = .ok (registry, .one name))
    (hcourse : h.Course w.here name w.stage uses text r t)
    (hrun : (h.verifySelected name).perform w = (result, after)) :
    after.stage = t ∧ w.Gained after uses text ∧
      result = r.map fun comparison => ({} : Summary).record comparison.verdict := by
  have hgoes := h.verifySelected_goes name hw hrun
  rw [hselection] at hgoes
  obtain ⟨segments, text', comparisons, failure?, hcourses, hend⟩ := hgoes
  cases r with
  | error failure =>
    obtain ⟨rfl, rfl, hending, rfl⟩ := hcourses.unique (.stop hcourse)
    obtain ⟨rfl, rfl⟩ := Prod.mk.inj hending
    exact ⟨rfl, by simpa using hend.2, hend.1⟩
  | ok comparison =>
    obtain ⟨rfl, rfl, hending, rfl⟩ := hcourses.unique (.next hcourse .done)
    obtain ⟨rfl, rfl⟩ := Prod.mk.inj hending
    exact ⟨rfl, by simpa using hend.2, hend.1⟩

/-- Verifying examples each on its own goes as they go in a list. -/
theorem runEach_goes {here : Location} {names : List String} {s t : Stage σ}
    {segments : List (List (Use σ))} {text : String} {ending : List Comparison × Option Failure}
    (hcourses : h.Courses here names s segments text ending t)
    (hnames : ∀ name ∈ names, Path.isComponent name = true ∧ Askable name)
    (hroot : FileSystem.Admissible h.settings.root)
    (hkeeps : h.KeepsExamples here names segments.flatten) (hs : h.HasExamples here names s)
    {w : World σ} (hw : w.Unlimited) (hhere : w.here = here) (hstage : w.stage = s) :
    ∃ result after, (h.runEach names).perform w = (result, after) ∧ after.stage = t ∧
      w.Gained after segments.flatten text ∧
      result = match ending.2 with
        | none => .ok (ending.1.map fun comparison => ({} : Summary).record comparison.verdict)
        | some failure => .error failure := by
  induction hcourses generalizing w with
  | done =>
    exact ⟨_, _, rfl, hstage, World.Gained.refl w, rfl⟩
  | @stop name names s t uses text failure hcourse =>
    subst hhere hstage
    obtain ⟨registry, hselection⟩ :=
      selection_one (hnames name List.mem_cons_self).1 (hnames name List.mem_cons_self).2 hroot
        (hs name List.mem_cons_self)
    rcases hrun : (h.verifySelected name).perform w with ⟨result, after⟩
    obtain ⟨hend, hgained, hresult⟩ := verifySelected_one hw hselection hcourse hrun
    refine ⟨.error failure, after, ?_, hend, by simpa using hgained, rfl⟩
    rw [runEach, Session.perform_bind, hrun, hresult]
    rfl
  | @next name names s t u uses segments text text' comparison comparisons failure? hcourse _ ih =>
    subst hhere hstage
    obtain ⟨registry, hselection⟩ :=
      selection_one (hnames name List.mem_cons_self).1 (hnames name List.mem_cons_self).2 hroot
        (hs name List.mem_cons_self)
    rcases hrun : (h.verifySelected name).perform w with ⟨result, after⟩
    obtain ⟨hend, hgained, hresult⟩ := verifySelected_one hw hselection hcourse hrun
    -- the directories of the others are still there
    have hkept : h.HasExamples w.here (name :: names) t :=
      hcourse.hasExamples (fun use huse => hkeeps use (by simp [huse])) hs
    have hkeeps' : h.KeepsExamples w.here names segments.flatten :=
      fun use huse other hother => hkeeps use (by simp [huse]) other (List.mem_cons_of_mem _ hother)
    obtain ⟨result', after', hrun', hend', hgained', hresult'⟩ :=
      ih (fun other hother => hnames other (List.mem_cons_of_mem _ hother)) hkeeps'
        (fun other hother => hkept other (List.mem_cons_of_mem _ hother))
        (hgained.unlimited hw) hgained.here hend
    have hboth : (h.runEach (name :: names)).perform w =
        (result'.map (({} : Summary).record comparison.verdict :: ·), after') := by
      rw [runEach, Session.perform_bind, hrun, hresult]
      simp only [Except.map, Session.perform_bind, hrun']
      cases result' <;> rfl
    refine ⟨_, after', hboth, hend', by simpa using hgained.trans hgained', ?_⟩
    rw [hresult']
    cases failure? <;> rfl

/-! ## §4 One verification for all -/

end Harness

namespace Summary

/-- Two counts added, verdict by verdict. -/
def add (counts other : Summary) : Summary :=
  ⟨counts.matched + other.matched, counts.mismatched + other.mismatched,
    counts.skipped + other.skipped⟩

/-- Counts added up, verdict by verdict. -/
def sum (counts : List Summary) : Summary := counts.foldr add {}

/-- A verdict is counted before an addition or after it. -/
theorem record_add (counts other : Summary) (verdict : Verdict) :
    (counts.record verdict).add other = counts.add ((({} : Summary).record verdict).add other) := by
  cases verdict <;> simp [record, add, Nat.add_assoc]

end Summary

namespace Harness

variable (h : Harness σ)

/-- Counting comparisons together is counting each of them and adding up. -/
theorem countsOf_eq_sum (comparisons : List Comparison) :
    countsOf comparisons =
      Summary.sum (comparisons.map fun comparison => ({} : Summary).record comparison.verdict) := by
  have hfrom : ∀ counts : Summary,
      comparisons.foldl (fun counts comparison => counts.record comparison.verdict) counts =
        counts.add (Summary.sum
          (comparisons.map fun comparison => ({} : Summary).record comparison.verdict)) := by
    induction comparisons with
    | nil =>
      intro counts
      rfl
    | cons comparison comparisons ih =>
      intro counts
      rw [List.foldl_cons, ih, Summary.record_add]
      rfl
  rw [countsOf, hfrom]
  simp [Summary.add]

/-- One verification ended as a number of them did, one after the other: with the same uses of the
tools, the same files, and the same failure, if there was one. If there was none, the counts are
added up and told after all the texts. -/
def EndsAsEach (one : Except Failure Summary × World σ)
    (each : Except Failure (List Summary) × World σ) : Prop :=
  one.2.uses = each.2.uses ∧ one.2.files = each.2.files ∧ one.2.tools = each.2.tools ∧
    match each.1 with
    | .error failure => one.1 = .error failure ∧ one.2.sink.taken = each.2.sink.taken
    | .ok counts =>
      one.1 = .ok (Summary.sum counts) ∧
      one.2.sink.taken = each.2.sink.taken ++ Utf8.encode (Report.summary (Summary.sum counts))

/-- Verifying all examples is verifying each of them, as long as their directories are kept. -/
theorem verifySelected_all (h : Harness σ) (w : World σ) (registry : Registry) (hw : w.Unlimited)
    (hfiles : w.files.WellNamed)
    (hdiscover : Registry.discover w.files w.here h.settings.root = .ok registry)
    (hnames : ∀ name ∈ registry, Askable name)
    (hkeeps : ∀ segments text ending t, h.Courses w.here registry w.stage segments text ending t →
      h.KeepsExamples w.here registry segments.flatten) :
    EndsAsEach ((h.verifySelected "all").perform w) ((h.runEach registry).perform w) := by
  obtain ⟨hroot, location, hentries⟩ := Registry.of_discover hdiscover
  have hcomponents : ∀ name ∈ registry, Path.isComponent name = true ∧ Askable name := by
    intro name hname
    exact ⟨hfiles name location (hentries name hname).1, hnames name hname⟩
  have hdirectories : h.HasExamples w.here registry w.stage :=
    fun name hname => (hentries name hname).2
  have hselect : registry.select "all" = .ok .all := by
    have hnormal : Registry.normalForm "all" = "all" := by decide +kernel
    unfold Registry.select
    dsimp only
    rw [hnormal, if_pos rfl]
  have hselection : h.selection w "all" = .ok (registry, .all) := by
    rw [selection, hdiscover]
    simp [hselect, Except.map]
  rcases hone : (h.verifySelected "all").perform w with ⟨result, after⟩
  have hgoes := h.verifySelected_goes "all" hw hone
  rw [hselection] at hgoes
  obtain ⟨segments, text, comparisons, failure?, hcourses, hend⟩ := hgoes
  dsimp only [Registry.Selection.names] at hcourses
  obtain ⟨result', after', heach, hstage, hgained, hresult⟩ :=
    runEach_goes hcourses hcomponents hroot (hkeeps _ _ _ _ hcourses) hdirectories hw rfl rfl
  rw [heach]
  have hfiles : after.files = after'.files := by
    show after.stage.files = after'.stage.files
    rw [hstage]
  have htools : after.tools = after'.tools := by
    show after.stage.tools = after'.stage.tools
    rw [hstage]
  subst hresult
  cases failure? with
  | some failure =>
    obtain ⟨hfailed, hgained'⟩ := hend
    refine ⟨?_, hfiles, htools, hfailed, ?_⟩
    · rw [hgained'.uses, hgained.uses]
    · rw [hgained'.sink, hgained.sink]
  | none =>
    obtain ⟨hdone, hgained'⟩ := hend
    refine ⟨?_, hfiles, htools, ?_, ?_⟩
    · rw [hgained'.uses, hgained.uses]
    · rw [hdone, countsOf_eq_sum]
    · rw [← countsOf_eq_sum, hgained'.sink, hgained.sink]
      simp [Utf8.encode]

end Harness

/-- The small world is well named. -/
theorem Sample.wellNamed_files : files.WellNamed := by
  intro name location hnode
  obtain ⟨entry, hentry, hlocation⟩ := FileSystem.node?_ne_none.mp hnode
  have hall : ∀ entry ∈ files.entries, ∀ text ∈ entry.1.filterMap Name.text?,
      Path.isComponent text = true := by decide +kernel
  exact hall entry hentry name (by simp [hlocation, Name.text?])

namespace Harness

/-- In the small world no tool changes a file, so that both come to the same. -/
theorem verifySelected_all_sample :
    Sample.world.Unlimited ∧
    Registry.discover Sample.world.files Sample.world.here Sample.harness.settings.root =
      .ok ["a", "b"] ∧
    EndsAsEach ((Sample.harness.verifySelected "all").perform Sample.world)
      ((Sample.harness.runEach ["a", "b"]).perform Sample.world) := by
  have hnames : ∀ name ∈ ["a", "b"], Askable name := by
    intro name hname
    simp only [List.mem_cons, List.not_mem_nil, or_false] at hname
    rcases hname with rfl | rfl <;> constructor <;> decide +kernel
  refine ⟨rfl, Sample.discover_files, ?_⟩
  refine verifySelected_all Sample.harness Sample.world ["a", "b"] rfl Sample.wellNamed_files
    Sample.discover_files hnames ?_
  intro segments text ending t hcourses use huse name hname hdirectory
  obtain ⟨example', -, hmakes⟩ := hcourses.makes use huse
  cases hmakes <;> exact hdirectory

end Harness

end Exemplar
