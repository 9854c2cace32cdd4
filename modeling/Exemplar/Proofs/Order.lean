/-
Exemplar.Proofs.Order — the order of the examples does not matter.

Examples that are confined to their regions do not see each other: each goes as it would have gone
first. So a list of them succeeds if each of them does, in whatever order, and every order comes to
the same counts and the same files.

  §1 regions apart
  §2 a list of examples, each as if it were alone
  §3 permutations of a list
  §4 a root that leads through an example
-/
import Exemplar.Proofs.Locality
import Mathlib.Data.List.Perm.Basic

namespace Exemplar

variable {σ : Type}

namespace Harness

variable {h : Harness σ} {here : Location} {name other : String} {names : List String}

/-! ## §1 Regions apart -/

/-- No location is in the regions of two examples. -/
theorem region_apart (hne : other ≠ name) {location : Location}
    (hlocation : h.region here other <:+ location) : ¬ h.region here name <:+ location := by
  intro hboth
  have hsuffix := List.suffix_of_suffix_length_le hlocation hboth (by simp [region])
  have heq := hsuffix.eq_of_length (by simp [region])
  simp only [region, List.cons.injEq, Name.text.injEq, and_true] at heq
  exact hne heq

/-- What matters to one example is outside the region of another. -/
theorem realm_apart (hconfined : h.Confined here name) (hne : other ≠ name) {location : Location}
    (hlocation : h.Realm here other location) : ¬ h.region here name <:+ location := by
  rcases hlocation with hinside | hway
  · exact region_apart hne hinside
  · exact hconfined.clear location hway

/-- One example leaves the stage alike for every other. -/
theorem Course.alike_other {s t : Stage σ} {uses : List (Use σ)} {text : String}
    {r : Except Failure Comparison} (hcourse : h.Course here name s uses text r t)
    (hconfined : h.Confined here name) (hlinks : s.files.LinkFree) (hne : other ≠ name) :
    h.Alike here other t s := by
  obtain ⟨hlinks', houtside⟩ := hcourse.outside hconfined hlinks
  exact ⟨houtside.mono fun location hl => realm_apart hconfined hne hl, hlinks', hlinks⟩

theorem Alike.trans {s t u : Stage σ} (hst : h.Alike here name s t)
    (htu : h.Alike here name t u) : h.Alike here name s u :=
  ⟨hst.agree.trans htu.agree, hst.linkFree, htu.linkFree'⟩

/-! ## §2 A list of examples, each as if it were alone -/

/-- An example that is compared, with that result, when it is verified first. -/
def Alone (h : Harness σ) (here : Location) (s : Stage σ) (name : String)
    (comparison : Comparison) : Prop :=
  ∃ uses text t, h.Course here name s uses text (.ok comparison) t

/-- A list of examples was verified from `s` to `t`, each as if it were alone on `base`: what was
compared, and what has become of each region and of the rest. -/
structure Apart (h : Harness σ) (here : Location) (base : Stage σ) (names : List String)
    (s : Stage σ) (comparisons : List Comparison) (t : Stage σ) : Prop where
  compared : List.Forall₂ (h.Alone here base) names comparisons
  inside : ∀ name ∈ names, ∃ uses text comparison u,
    h.Course here name base uses text (.ok comparison) u ∧
      t.files.AgreeOn (h.region here name <:+ ·) u.files
  outside : t.files.AgreeOn (fun location => ∀ name ∈ names, ¬ h.region here name <:+ location)
    s.files
  linkFree : t.files.LinkFree

/-- A list of examples none of which fails goes as each of them goes alone, on any stage that is
alike for all of them. -/
theorem Courses.apart {base s t : Stage σ} {segments : List (List (Use σ))} {text : String}
    {ending : List Comparison × Option Failure}
    (hcourses : h.Courses here names s segments text ending t) (hend : ending.2 = none)
    (hconfined : ∀ name ∈ names, h.Confined here name) (hnodup : names.Nodup)
    (halike : ∀ name ∈ names, h.Alike here name s base) (hlinks : s.files.LinkFree) :
    h.Apart here base names s ending.1 t := by
  induction hcourses with
  | done => exact ⟨.nil, by simp, .refl _ _, hlinks⟩
  | stop _ => cases hend
  | @next name names s m t _ _ _ _ comparison _ _ hcourse _ ih =>
    obtain ⟨hfresh, hnodup'⟩ := List.nodup_cons.mp hnodup
    have hne : ∀ other ∈ names, other ≠ name := by
      rintro other hother rfl
      exact hfresh hother
    have hname := hconfined name List.mem_cons_self
    obtain ⟨hlinks', houtside⟩ := hcourse.outside hname hlinks
    obtain ⟨_, u, halone, hu⟩ := hcourse.alike hname (halike name List.mem_cons_self)
    have hothers : ∀ other ∈ names, h.Alike here other m base := by
      intro other hother
      exact (hcourse.alike_other hname hlinks (hne other hother)).trans
        (halike other (List.mem_cons_of_mem _ hother))
    have hrest := ih hend (fun other hother => hconfined other (List.mem_cons_of_mem _ hother))
      hnodup' hothers hlinks'
    refine ⟨.cons ⟨_, _, u, halone⟩ hrest.compared, ?_, ?_, hrest.linkFree⟩
    · intro other hother
      rcases List.mem_cons.mp hother with rfl | hlater
      · -- the examples after it leave its region as it is
        refine ⟨_, _, comparison, u, halone, fun location hl => ?_⟩
        rw [hrest.outside location fun later hlater => region_apart (hne later hlater).symm hl]
        exact hu.agree location (Or.inl hl)
      · exact hrest.inside other hlater
    · intro location hl
      rw [hrest.outside location fun later hlater => hl later (List.mem_cons_of_mem _ hlater)]
      exact houtside location (hl name List.mem_cons_self)

/-- If each example of a list succeeds alone, none of them fails in the list. -/
theorem Courses.not_failed {s t : Stage σ} {segments : List (List (Use σ))} {text : String}
    {ending : List Comparison × Option Failure}
    (hcourses : h.Courses here names s segments text ending t)
    (hconfined : ∀ name ∈ names, h.Confined here name) (hnodup : names.Nodup)
    (hlinks : s.files.LinkFree)
    (halone : ∀ name ∈ names, ∃ comparison, h.Alone here s name comparison) :
    ending.2 = none := by
  cases hfailed : ending.2 with
  | none => rfl
  | some failure =>
    exfalso
    obtain ⟨done, name, rest, _, _, _, _, _, m, rfl, -, -, hdone, hcut⟩ := hcourses.cut hfailed
    have hmem : name ∈ done ++ name :: rest := by simp
    obtain ⟨hdone', -, hdisjoint⟩ := List.nodup_append.mp hnodup
    obtain ⟨comparison, _, _, _, hcompared⟩ := halone name hmem
    have hself (other : String) : h.Alike here other s s := ⟨.refl _ _, hlinks, hlinks⟩
    have hapart := hdone.apart rfl (fun other hother => hconfined other (by simp [hother]))
      hdone' (fun other _ => hself other) hlinks
    -- the examples before it leave all that matters to it as it is
    have halike : h.Alike here name m s := by
      refine ⟨hapart.outside.mono fun location hl other hother => ?_, hapart.linkFree, hlinks⟩
      have hne : name ≠ other := (hdisjoint other hother name List.mem_cons_self).symm
      exact realm_apart (hconfined other (by simp [hother])) hne hl
    obtain ⟨_, _, hcut', -⟩ := hcut.alike (hconfined name hmem) halike
    obtain ⟨-, -, hresult, -⟩ := hcut'.unique hcompared
    cases hresult

/-! ## §3 Permutations of a list -/

/-- Counting two verdicts does not depend on which comes first. -/
theorem record_comm (counts : Summary) (v v' : Verdict) :
    (counts.record v).record v' = (counts.record v').record v := by
  cases v <;> cases v' <;> rfl

theorem countsOf_perm {comparisons comparisons' : List Comparison}
    (hperm : comparisons.Perm comparisons') : countsOf comparisons = countsOf comparisons' :=
  hperm.foldl_eq' (fun x _ y _ counts => record_comm counts x.verdict y.verdict) {}

/-- What an example alone is compared with is one thing. -/
theorem alone_rightUnique (s : Stage σ) : Relator.RightUnique (h.Alone here s) := by
  rintro name comparison comparison' ⟨_, _, _, hcourse⟩ ⟨_, _, _, hcourse'⟩
  exact Except.ok.inj (hcourse.unique hcourse').2.2.1

/-- Verifying a list in two orders from one stage, each to its end, comes to the same. -/
theorem Apart.perm {s t t' : Stage σ} {names' : List String}
    {comparisons comparisons' : List Comparison} (hone : h.Apart here s names s comparisons t)
    (hother : h.Apart here s names' s comparisons' t') (hperm : names.Perm names') :
    countsOf comparisons = countsOf comparisons' ∧ t.files.AgreeOn (fun _ => True) t'.files := by
  refine ⟨?_, fun location _ => ?_⟩
  · obtain ⟨middle, hmiddle, hpermuted⟩ := List.perm_comp_forall₂ hperm.symm hone.compared
    obtain rfl := List.right_unique_forall₂' (alone_rightUnique s) hmiddle hother.compared
    exact countsOf_perm hpermuted.symm
  · by_cases hinside : ∃ name ∈ names, h.region here name <:+ location
    · obtain ⟨name, hname, hl⟩ := hinside
      obtain ⟨_, _, _, u, hcourse, hu⟩ := hone.inside name hname
      obtain ⟨_, _, _, u', hcourse', hu'⟩ := hother.inside name (hperm.mem_iff.mp hname)
      obtain ⟨-, -, -, rfl⟩ := hcourse.unique hcourse'
      rw [hu location hl, hu' location hl]
    · have hout : ∀ name ∈ names, ¬ h.region here name <:+ location :=
        fun name hname hl => hinside ⟨name, hname, hl⟩
      rw [hone.outside location hout,
        hother.outside location fun name hname => hout name (hperm.mem_iff.mpr hname)]

/-- What is asked of a list of examples and of the tools: the names are single components, each
once, the artifacts stand below the directories of their examples, and the tools keep to the region
of each example and find programs by name. -/
structure ExampleLocal (h : Harness σ) (here : Location) (names : List String) : Prop where
  components : ∀ name ∈ names, Path.isComponent name = true
  nodup : names.Nodup
  settings : h.InwardSettings
  tools : ∀ name ∈ names, h.tools.KeepsTo here (h.region here name)
  finds : h.tools.FindsByName

/-- Two verifications ended alike: one succeeded if the other did, and then both have the same
counts and leave the same files, times apart. -/
def EndAlike (one other : Except Failure Summary × World σ) : Prop :=
  (one.1.isOk ↔ other.1.isOk) ∧ ∀ counts counts', one.1 = .ok counts → other.1 = .ok counts' →
    counts = counts' ∧ one.2.files.AgreeOn (fun _ => True) other.2.files

theorem not_endAlike {one other : Except Failure Summary × World σ} {counts : Summary}
    {failure : Failure} (hone : one.1 = .ok counts) (hother : other.1 = .error failure) :
    ¬ EndAlike one other := by
  rintro ⟨hiff, -⟩
  rw [hone, hother] at hiff
  cases hiff.mp rfl

/-- The order of the examples does not matter, if the way to the root does not lead through any of
them. -/
theorem verify_perm (h : Harness σ) (w : World σ) (names names' : List String) (hw : w.Unlimited)
    (hlinks : w.files.LinkFree) (hlocal : h.ExampleLocal w.here names)
    (hclear : ∀ name ∈ names, ∀ location ∈ h.settings.root.trail w.here,
      ¬ h.region w.here name <:+ location)
    (hperm : names.Perm names') :
    EndAlike ((h.verify names).perform w) ((h.verify names').perform w) := by
  have hconfined : ∀ name ∈ names, h.Confined w.here name := fun name hname =>
    ⟨hlocal.components name hname, hlocal.settings, hclear name hname, hlocal.tools name hname,
      hlocal.finds⟩
  have hconfined' : ∀ name ∈ names', h.Confined w.here name :=
    fun name hname => hconfined name (hperm.mem_iff.mpr hname)
  have hnodup := hlocal.nodup
  have hnodup' := hperm.nodup_iff.mp hnodup
  have hself (name : String) : h.Alike w.here name w.stage w.stage := ⟨.refl _ _, hlinks, hlinks⟩
  rcases hrun : (h.verify names).perform w with ⟨result, after⟩
  rcases hrun' : (h.verify names').perform w with ⟨result', after'⟩
  obtain ⟨segments, text, comparisons, failure?, hcourses, -, rfl⟩ :=
    h.verifyFrom_goes names {} hw hrun
  obtain ⟨segments', text', comparisons', failure?', hcourses', -, rfl⟩ :=
    h.verifyFrom_goes names' {} hw hrun'
  have hiff : failure? = none ↔ failure?' = none := by
    constructor
    · intro hnone
      have hapart := hcourses.apart hnone hconfined hnodup (fun name _ => hself name) hlinks
      refine hcourses'.not_failed hconfined' hnodup' hlinks fun name hname => ?_
      obtain ⟨uses, text, comparison, u, hcourse, -⟩ := hapart.inside name (hperm.mem_iff.mpr hname)
      exact ⟨comparison, uses, text, u, hcourse⟩
    · intro hnone
      have hapart := hcourses'.apart hnone hconfined' hnodup' (fun name _ => hself name) hlinks
      refine hcourses.not_failed hconfined hnodup hlinks fun name hname => ?_
      obtain ⟨uses, text, comparison, u, hcourse, -⟩ := hapart.inside name (hperm.mem_iff.mp hname)
      exact ⟨comparison, uses, text, u, hcourse⟩
  refine ⟨?_, ?_⟩
  · cases failure? <;> cases failure?' <;> simp_all [Except.isOk, Except.toBool]
  · intro counts counts' hcounts hcounts'
    cases failure? with
    | some failure => cases hcounts
    | none =>
      cases failure?' with
      | some failure' => cases hcounts'
      | none =>
        obtain rfl := Except.ok.inj hcounts
        obtain rfl := Except.ok.inj hcounts'
        have hapart := hcourses.apart rfl hconfined hnodup (fun name _ => hself name) hlinks
        have hapart' := hcourses'.apart rfl hconfined' hnodup' (fun name _ => hself name) hlinks
        exact hapart.perm hapart' hperm

end Harness

/-! ## §4 A root that leads through an example

Tools may remove the directory that they were called for. If the way to the root leads through that
directory, no example can be reached any more. -/

namespace Sample

/-- Whether a call runs a script in `/ex/x`. -/
def runsInX (call : Call) : Bool :=
  call.program = "/bin/lune" &&
    call.args.getLast?.any fun arg => (place ["ex", "x"]).isSuffixOf (Path.place [] ⟨arg⟩)

/-- Tools that write nothing; a script in `/ex/x` removes that directory. -/
def clearing : Toolchain Unit where
  execute _ files call :=
    { outcome := .ok ⟨some 0, "", ""⟩, state := ()
      files := if runsInX call then files.erase (place ["ex", "x"]) else files }
  locate _ files program := (some (Utf8.encode ("/bin/" ++ program)), (), files)

/-- Two examples, `x` and `y`, with their artifacts. -/
def pair : FileSystem :=
  let directories := (FileSystem.empty.putDirectories
    (place ["ex", "x", "bin", "Release", "net8.0"])).putDirectories
    (place ["ex", "y", "bin", "Release", "net8.0"])
  (directories.put (place ["ex", "x", "bin", "Release", "net8.0", "x.dll"]) (.file artifact)).put
    (place ["ex", "y", "bin", "Release", "net8.0", "y.dll"]) (.file artifact)

/-- The world of the two examples. -/
def pairWorld : World Unit := { here := [], files := pair, tools := () }

/-- A harness over the two examples, with one of the ways to their root. -/
def clearingHarness (root : String) : Harness Unit := ⟨Settings.ofRoot ⟨root⟩, clearing⟩

theorem linkFree_pair : pair.LinkFree := by
  have hdirectories := FileSystem.linkFree_putDirectories (FileSystem.linkFree_putDirectories
    FileSystem.linkFree_empty (place ["ex", "x", "bin", "Release", "net8.0"]))
    (place ["ex", "y", "bin", "Release", "net8.0"])
  exact FileSystem.linkFree_put (FileSystem.linkFree_put hdirectories _ (by simp)) _ (by simp)

/-- The tools keep to the region of `x`, and to every region apart from it. -/
theorem clearing_keepsTo {region : Location} (hregion : region = place ["ex", "x"] ∨
      ∀ location, region <:+ location → ¬ place ["ex", "x"] <:+ location) :
    clearing.KeepsTo [] region := by
  have hfiles (a : Unit) (fs : FileSystem) (call : Call) : (clearing.execute a fs call).files =
      if runsInX call then fs.erase (place ["ex", "x"]) else fs := rfl
  refine ⟨fun _ _ _ _ => rfl, ?_, ?_, ?_⟩
  · intro call fs fs' a a' _ hagree location hl
    rw [hfiles, hfiles]
    split
    · cases location with
      | nil => rfl
      | cons name parent =>
        rw [FileSystem.shown_erase (by simp), FileSystem.shown_erase (by simp), hagree _ hl]
    · exact hagree location hl
  · rintro call a fs ⟨arg, harg, hplace⟩ location hl
    rw [hfiles]
    split
    · rename_i hruns
      have hx : place ["ex", "x"] <:+ Path.place [] ⟨arg⟩ := by
        simp only [runsInX, harg, Option.any_some, Bool.and_eq_true] at hruns
        exact List.isSuffixOf_iff_suffix.mp hruns.2
      rcases hregion with rfl | happart
      · cases location with
        | nil => rfl
        | cons name parent => rw [FileSystem.shown_erase (by simp), if_neg hl]
      · exact absurd hx (happart _ hplace)
    · rfl
  · intro call fs a _ hlinks
    rw [hfiles]
    split
    · exact FileSystem.linkFree_erase hlinks _
    · exact hlinks

/-- The two examples are local, whatever way leads to their root. -/
theorem clearing_local {root : String} (hroot : Path.place [] ⟨root⟩ = place ["ex"]) :
    (clearingHarness root).ExampleLocal [] ["y", "x"] := by
  have hx : (clearingHarness root).region [] "x" = place ["ex", "x"] := by
    show .text "x" :: Path.place [] ⟨root⟩ = _
    rw [hroot]
    rfl
  have hsettings : (clearingHarness root).InwardSettings := by
    show Path.Inward "Release" ∧ Path.Inward "net8.0"
    decide
  refine ⟨by decide, by decide, hsettings, ?_, _, fun _ _ _ => ⟨rfl, .refl _ _⟩⟩
  intro name hname
  by_cases heq : name = "x"
  · exact clearing_keepsTo (Or.inl (heq ▸ hx))
  · refine clearing_keepsTo (Or.inr fun location hl => ?_)
    rw [← hx]
    exact Harness.region_apart heq hl

end Sample

namespace Harness

/-- With a root that is reached directly, the two examples can be verified in both orders. -/
theorem verify_perm_pair :
    Sample.pairWorld.Unlimited ∧ Sample.pairWorld.files.LinkFree ∧
    (Sample.clearingHarness "ex").ExampleLocal [] ["y", "x"] ∧
    (∀ name ∈ ["y", "x"], ∀ location ∈ Path.trail [] ⟨"ex"⟩,
      ¬ (Sample.clearingHarness "ex").region [] name <:+ location) ∧
    (((Sample.clearingHarness "ex").verify ["y", "x"]).perform Sample.pairWorld).1 =
      .ok ⟨0, 0, 2⟩ ∧
    EndAlike (((Sample.clearingHarness "ex").verify ["y", "x"]).perform Sample.pairWorld)
      (((Sample.clearingHarness "ex").verify ["x", "y"]).perform Sample.pairWorld) := by
  have hlocal : (Sample.clearingHarness "ex").ExampleLocal [] ["y", "x"] :=
    Sample.clearing_local (by decide +kernel)
  have hclear : ∀ name ∈ ["y", "x"], ∀ location ∈ Path.trail [] ⟨"ex"⟩,
      ¬ (Sample.clearingHarness "ex").region [] name <:+ location := by decide +kernel
  exact ⟨rfl, Sample.linkFree_pair, hlocal, hclear, by decide +kernel,
    verify_perm (Sample.clearingHarness "ex") Sample.pairWorld ["y", "x"] ["x", "y"] rfl
      Sample.linkFree_pair hlocal hclear (.swap "x" "y" [])⟩

/-- The order of the examples does matter to a root that leads through one of them: after `x` was
verified, `ex/x/..` leads nowhere. -/
theorem verify_perm_detour :
    ¬ ∀ (h : Harness Unit) (w : World Unit) (names names' : List String), w.Unlimited →
      w.files.LinkFree → h.ExampleLocal w.here names → names.Perm names' →
      EndAlike ((h.verify names).perform w) ((h.verify names').perform w) := by
  intro hall
  have hlocal : (Sample.clearingHarness "ex/x/..").ExampleLocal [] ["y", "x"] :=
    Sample.clearing_local (by decide +kernel)
  have hend := hall (Sample.clearingHarness "ex/x/..") Sample.pairWorld ["y", "x"] ["x", "y"] rfl
    Sample.linkFree_pair hlocal (.swap "x" "y" [])
  have hone : (((Sample.clearingHarness "ex/x/..").verify ["y", "x"]).perform
      Sample.pairWorld).1 = .ok ⟨0, 0, 2⟩ := by decide +kernel
  have hother : (((Sample.clearingHarness "ex/x/..").verify ["x", "y"]).perform
      Sample.pairWorld).1 =
        .error (.missingArtifact "y" ⟨"ex/x/../y/bin/Release/net8.0/y.dll"⟩) := by decide +kernel
  exact not_endAlike hone hother hend

end Harness

end Exemplar
