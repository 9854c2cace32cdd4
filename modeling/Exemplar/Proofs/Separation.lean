/-
Exemplar.Proofs.Separation — the files of examples are kept apart by their paths.

Of a joined path only what stands behind its last slash is sure to come from the part that was
joined: a part that starts at the root replaces all before it, and a slash at the end of the path is
not doubled. That last part is enough, though. It tells the kinds of files apart, and with them the
artifacts and the scripts of different examples; the fixtures of different examples stand behind
different directories. Nothing is asked of the root, the profile or the framework.

  §1 the last slash
  §2 joining
  §3 the files of an example
  §4 where they stand
  §5 examples that are kept apart
-/
import Exemplar.Example
import Exemplar.Proofs.Paths

namespace Exemplar

namespace Path

/-! ## §1 The last slash -/

/-- What stands in front of the last slash, and what stands behind it, follows from the whole. -/
theorem last_slash_inj {front front' last last' : List Char} (hlast : '/' ∉ last)
    (hlast' : '/' ∉ last') (heq : front ++ '/' :: last = front' ++ '/' :: last') :
    front = front' ∧ last = last' := by
  induction front generalizing front' with
  | nil =>
    cases front' with
    | nil => exact ⟨rfl, List.tail_eq_of_cons_eq heq⟩
    | cons c cs => exact absurd (by rw [List.tail_eq_of_cons_eq heq]; simp) hlast
  | cons c cs ih =>
    cases front' with
    | nil => exact absurd (by rw [← List.tail_eq_of_cons_eq heq]; simp) hlast'
    | cons c' cs' =>
      obtain ⟨rfl, hrest⟩ := List.cons.inj heq
      obtain ⟨rfl, rfl⟩ := ih hrest
      exact ⟨rfl, rfl⟩

variable {path : Path} {front front' part part' : String}

theorem slash_not_mem_component (hpart : isComponent part = true) : '/' ∉ part.toList := by
  simp only [isComponent, Bool.and_eq_true, Bool.not_eq_true', List.contains_eq_mem,
    decide_eq_false_iff_not] at hpart
  exact hpart.1.1.2

/-- A path that ends in a component has one end only. -/
theorem ends_inj (hpart : isComponent part = true) (hpart' : isComponent part' = true)
    (heq : front ++ "/" ++ part = front' ++ "/" ++ part') : front = front' ∧ part = part' := by
  have hlists := congrArg String.toList heq
  simp only [String.toList_append, List.append_assoc] at hlists
  obtain ⟨hfront, hend⟩ :=
    last_slash_inj (slash_not_mem_component hpart) (slash_not_mem_component hpart') hlists
  exact ⟨String.toList_injective hfront, String.toList_injective hend⟩

/-! ## §2 Joining -/

/-- A path that a part can be joined to with a slash between them: not empty, and without a slash at
its end. -/
def Plain (path : Path) : Prop :=
  path.text ≠ "" ∧ path.text.toList.getLast? ≠ some '/'

/-- A relative part stands behind a plain path and a slash. -/
theorem text_join (hpath : path.Plain) (hpart : part.toList.head? ≠ some '/') :
    (path / part).text = path.text ++ "/" ++ part := by
  have hnonempty : path.text.toList ≠ [] := by simpa using hpath.1
  apply String.toList_injective
  rw [toList_join hpart, if_neg (not_or.mpr ⟨hnonempty, hpath.2⟩)]
  simp

/-- A path that a component is joined to is plain, even if it was empty before. -/
theorem plain_join (path : Path) (hpart : isComponent part = true) : (path / part).Plain := by
  have hne : part ≠ "" := by
    rintro rfl
    cases hpart
  refine ⟨join_ne_empty path hne, ?_⟩
  have hchars : part.toList.getLast? ≠ none := by simpa using hne
  obtain ⟨c, hc⟩ := Option.ne_none_iff_exists'.mp hchars
  have hlast : (path / part).text.toList.getLast? = some c := by
    rw [toList_join (head_component hpart)]
    split <;> simp [List.getLast?_append, List.getLast?_cons, hc]
  rw [hlast]
  rintro hslash
  obtain rfl := Option.some.inj hslash
  exact slash_not_mem_component hpart (List.mem_of_getLast? hc)

/-- A relative part leaves what stands before it. -/
theorem startsWith_join (hpart : part.toList.head? ≠ some '/')
    (hpath : ∃ rest, path.text = front ++ rest) : ∃ rest, (path / part).text = front ++ rest := by
  obtain ⟨rest, hrest⟩ := hpath
  have hjoined : (path / part).text.toList = _ := toList_join hpart
  split at hjoined
  · refine ⟨rest ++ part, String.toList_injective ?_⟩
    rw [hjoined, hrest]
    simp
  · refine ⟨rest ++ "/" ++ part, String.toList_injective ?_⟩
    rw [hjoined, hrest]
    simp

/-- A path is not empty if it was joined to one that is not. -/
theorem join_ne_empty_of_ne (hpath : path.text ≠ "") (part : String) : (path / part).text ≠ "" := by
  by_cases hpart : part = ""
  · have hrelative : part.toList.head? ≠ some '/' := by simp [hpart]
    have hkept : ∃ rest, (path / part).text = path.text ++ rest :=
      startsWith_join hrelative ⟨"", by simp⟩
    obtain ⟨rest, hrest⟩ := hkept
    rw [hrest]
    simp [hpath]
  · exact join_ne_empty path hpart

/-- A component that is joined to a path is its last part. -/
theorem exists_front_join (hpath : path.text ≠ "") (hpart : isComponent part = true) :
    ∃ front, (path / part).text = front ++ "/" ++ part := by
  by_cases hslash : path.text.toList.getLast? = some '/'
  · obtain ⟨before, hbefore⟩ := List.getLast?_eq_some_iff.mp hslash
    refine ⟨String.ofList before, String.toList_injective ?_⟩
    rw [toList_join (head_component hpart), if_pos (Or.inr hslash), hbefore]
    simp
  · exact ⟨path.text, text_join ⟨hpath, hslash⟩ (head_component hpart)⟩

/-- A component is the same if it is joined to the same path with the same result. -/
theorem join_component_inj (hpart : isComponent part = true) (hpart' : isComponent part' = true)
    (heq : path / part = path / part') : part = part' := by
  have hlists := congrArg (fun joined : Path => joined.text.toList) heq
  simp only [toList_join (head_component hpart), toList_join (head_component hpart')] at hlists
  apply String.toList_injective
  split at hlists
  · exact List.append_cancel_left hlists
  · exact List.tail_eq_of_cons_eq (List.append_cancel_left hlists)

end Path

namespace Example

/-! ## §3 The files of an example -/

/-- The kinds of files that an example has. -/
inductive Kind where
  | artifact
  | script
  | input
  | expected
  deriving DecidableEq, Repr

/-- The path of a file of an example. -/
def file (ex : Example) : Kind → Path
  | .artifact => ex.artifact
  | .script => ex.script
  | .input => ex.inputFixture
  | .expected => ex.expectedFixture

/-- What a file of an example of some name is called in its directory. -/
def Kind.title (kind : Kind) (name : String) : String :=
  match kind with
  | .artifact => name ++ ".dll"
  | .script => name ++ ".lua"
  | .input => "input.txt"
  | .expected => "output.txt"

variable {settings : Settings} {name other : String} {kind kind' : Kind}

theorem isComponent_title (hname : Path.isComponent name = true) (kind : Kind) :
    Path.isComponent (kind.title name) = true := by
  cases kind with
  | artifact => exact Path.isComponent_append hname (by decide) (by decide)
  | script => exact Path.isComponent_append hname (by decide) (by decide)
  | input => exact (by decide : Path.isComponent "input.txt" = true)
  | expected => exact (by decide : Path.isComponent "output.txt" = true)

/-- The last letter of a title, which only the two fixtures share. -/
theorem getLast?_title (kind : Kind) (name : String) :
    (kind.title name).toList.getLast? =
      some (match kind with | .artifact => 'l' | .script => 'a' | .input | .expected => 't') := by
  cases kind <;> simp [Kind.title, List.getLast?_append]

/-- Files of different kinds have different titles, whatever the names of their examples. -/
theorem kind_eq_of_title (heq : kind.title name = kind'.title other) : kind = kind' := by
  have hletter := getLast?_title kind name
  rw [heq, getLast?_title] at hletter
  cases kind <;> cases kind' <;> simp_all [Kind.title]

/-- The title of an artifact or a script tells the name of its example. -/
theorem name_eq_of_title (hkind : kind = .artifact ∨ kind = .script)
    (heq : kind.title name = kind.title other) : name = other := by
  have hlists := congrArg String.toList heq
  rcases hkind with rfl | rfl <;>
    exact String.toList_injective (by simpa [Kind.title, String.toList_append] using hlists)

/-! ## §4 Where they stand -/

/-- All files of an example but its artifact stand in its directory. -/
theorem file_text (hname : Path.isComponent name = true) (hkind : kind ≠ .artifact) :
    ((ofName settings name).file kind).text =
      (ofName settings name).directory.text ++ "/" ++ kind.title name := by
  have hdirectory : (ofName settings name).directory.Plain := Path.plain_join _ hname
  have htext := Path.text_join hdirectory (Path.head_component (isComponent_title hname kind))
  cases kind with
  | artifact => exact absurd rfl hkind
  | script | input | expected => exact htext

/-- Wherever an artifact stands, it has its title there. -/
theorem artifact_text (hname : Path.isComponent name = true) :
    ∃ front, (ofName settings name).artifact.text = front ++ "/" ++ Kind.artifact.title name := by
  have hbin : ((ofName settings name).directory / "bin").text ≠ "" :=
    Path.join_ne_empty _ (by decide)
  exact Path.exists_front_join
    (Path.join_ne_empty_of_ne (Path.join_ne_empty_of_ne hbin settings.profile) settings.framework)
    (isComponent_title hname .artifact)

/-- Every file of an example has its title behind the last slash of its path. -/
theorem exists_front_file (settings : Settings) (hname : Path.isComponent name = true)
    (kind : Kind) :
    ∃ front, ((ofName settings name).file kind).text = front ++ "/" ++ kind.title name := by
  by_cases hkind : kind = .artifact
  · subst hkind
    exact artifact_text hname
  · exact ⟨_, file_text hname hkind⟩

/-- An artifact stands below `bin` in the directory of its example, unless the profile or the
framework starts at the root. -/
theorem artifact_in_bin (hname : Path.isComponent name = true)
    (hprofile : settings.profile.toList.head? ≠ some '/')
    (hframework : settings.framework.toList.head? ≠ some '/') :
    ∃ rest, (ofName settings name).artifact.text =
      (ofName settings name).directory.text ++ "/bin/" ++ rest := by
  have hdirectory : (ofName settings name).directory.Plain := Path.plain_join _ hname
  have hbin : ((ofName settings name).directory / "bin").Plain := Path.plain_join _ (by decide)
  have hfirst : ((ofName settings name).directory / "bin" / settings.profile).text =
      (ofName settings name).directory.text ++ "/bin/" ++ settings.profile := by
    rw [Path.text_join hbin hprofile, Path.text_join hdirectory (by decide)]
    simp [String.append_assoc]
  exact Path.startsWith_join (Path.head_component (isComponent_title hname .artifact))
    (Path.startsWith_join hframework ⟨settings.profile, hfirst⟩)

/-! ## §5 Examples that are kept apart -/

/-- A path is that of one file of one example at most. -/
theorem file_inj (hname : Path.isComponent name = true) (hother : Path.isComponent other = true)
    (heq : (ofName settings name).file kind = (ofName settings other).file kind') :
    kind = kind' ∧ name = other := by
  obtain ⟨front, htext⟩ := exists_front_file settings hname kind
  obtain ⟨front', htext'⟩ := exists_front_file settings hother kind'
  have hends : front ++ "/" ++ kind.title name = front' ++ "/" ++ kind'.title other := by
    rw [← htext, ← htext', heq]
  obtain ⟨-, htitle⟩ :=
    Path.ends_inj (isComponent_title hname kind) (isComponent_title hother kind') hends
  obtain rfl := kind_eq_of_title htitle
  refine ⟨rfl, ?_⟩
  by_cases hkind : kind = .artifact ∨ kind = .script
  · exact name_eq_of_title hkind htitle
  · -- a fixture has no name in its title, but that of its directory stands before it
    have hinside : kind ≠ .artifact := fun h => hkind (Or.inl h)
    have hfixtures : (ofName settings name).directory.text ++ "/" ++ kind.title name =
        (ofName settings other).directory.text ++ "/" ++ kind.title other := by
      rw [← file_text hname hinside, ← file_text hother hinside, heq]
    obtain ⟨hdirectory, -⟩ :=
      Path.ends_inj (isComponent_title hname kind) (isComponent_title hother kind) hfixtures
    exact Path.join_component_inj hname hother (congrArg Path.mk hdirectory)

/-- What is said of the files of two examples whose names are components. One path is that of one
file of one example. The script and the fixtures stand right below the directory of the example. The
artifact has the name of the example and `.dll` behind its last slash, and it stands below `bin` in
that directory unless the profile or the framework starts at the root. -/
structure KeptApart (settings : Settings) (name other : String) : Prop where
  apart : ∀ kind kind', ((ofName settings name).file kind).text =
    ((ofName settings other).file kind').text ↔ kind = kind' ∧ name = other
  inside : ∀ kind, kind ≠ .artifact → ∃ part, Path.isComponent part = true ∧
    ((ofName settings name).file kind).text = (ofName settings name).directory.text ++ "/" ++ part
  inBin : settings.profile.toList.head? ≠ some '/' → settings.framework.toList.head? ≠ some '/' →
    ∃ rest, (ofName settings name).artifact.text =
      (ofName settings name).directory.text ++ "/bin/" ++ rest
  named : Path.isComponent (name ++ ".dll") = true ∧
    ∃ front, (ofName settings name).artifact.text = front ++ "/" ++ (name ++ ".dll")

/-- The files of examples are kept apart, whatever the settings. -/
theorem ofName_keptApart (settings : Settings) {name other : String}
    (hname : Path.isComponent name = true) (hother : Path.isComponent other = true) :
    KeptApart settings name other where
  apart kind kind' := by
    constructor
    · intro heq
      exact file_inj hname hother (congrArg Path.mk heq)
    · rintro ⟨rfl, rfl⟩
      rfl
  inside kind hkind := ⟨kind.title name, isComponent_title hname kind, file_text hname hkind⟩
  inBin hprofile hframework := artifact_in_bin hname hprofile hframework
  named := ⟨isComponent_title hname .artifact, artifact_text hname⟩

/-- Surroundings in which the examples stand above the directory that all else is read from, and the
artifacts somewhere else. -/
def scattered : Settings.Environment := fun key =>
  match key with
  | "CSYNTH_EXAMPLES_ROOT" => some " ../ex/ "
  | "CSYNTH_BUILD_PROFILE" => some "/out"
  | "CSYNTH_TARGET_FRAMEWORK" => some "../net/"
  | _ => none

/-- Names that look like those of files keep their files apart, there too. -/
theorem ofName_keptApart_scattered :
    Path.isComponent "input.txt" = true ∧ Path.isComponent "input.txt.dll" = true ∧
    (ofName (.ofEnvironment scattered) "input.txt").artifact.text = "/out/../net/input.txt.dll" ∧
    (ofName (.ofEnvironment scattered) "input.txt").inputFixture.text =
      "../ex/input.txt/input.txt" ∧
    KeptApart (.ofEnvironment scattered) "input.txt" "input.txt.dll" := by
  refine ⟨by decide, by decide, by decide +kernel, by decide +kernel, ?_⟩
  exact ofName_keptApart (.ofEnvironment scattered) (by decide) (by decide)

end Example

end Exemplar
