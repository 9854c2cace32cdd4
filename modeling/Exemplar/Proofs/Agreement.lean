/-
Exemplar.Proofs.Agreement — file systems that show the same.

Two file systems may show the same at some locations, the times of the files apart. What is read and
written along a path depends on no more than the locations that the path enters, as long as there
are no links.

  §1 what is shown
  §2 paths that agree
  §3 reading
  §4 writing
-/
import Exemplar.Proofs.Leaves

namespace Exemplar

/-! ## §1 What is shown -/

/-- A file without the time of its last change. -/
def File.untimed (file : File) : File := { file with stamp := .old }

theorem File.eq_of_untimed {file file' : File} (h : file.untimed = file'.untimed) :
    file.data = file'.data ∧ file.rights = file'.rights := by
  simpa [untimed] using h

/-- A node without the time of its last change. -/
def Node.untimed : Node → Node
  | .file f => .file f.untimed
  | node => node

namespace FileSystem

/-- What stands at a location, times apart. -/
def shown (fs : FileSystem) (location : Location) : Option Node :=
  (fs.node? location).map Node.untimed

/-- Whether two file systems show the same at all locations of some kind. -/
def AgreeOn (P : Location → Prop) (fs fs' : FileSystem) : Prop :=
  ∀ location, P location → fs.shown location = fs'.shown location

namespace AgreeOn

variable {P Q : Location → Prop} {fs fs' fs'' : FileSystem}

theorem refl (P : Location → Prop) (fs : FileSystem) : AgreeOn P fs fs := fun _ _ => rfl

theorem trans (h : AgreeOn P fs fs') (h' : AgreeOn P fs' fs'') : AgreeOn P fs fs'' :=
  fun location hl => (h location hl).trans (h' location hl)

theorem mono (h : AgreeOn P fs fs') (hsub : ∀ location, Q location → P location) :
    AgreeOn Q fs fs' :=
  fun location hl => h location (hsub location hl)

end AgreeOn

variable {fs fs' : FileSystem}

@[simp] theorem shown_tick (fs : FileSystem) (location : Location) :
    fs.tick.shown location = fs.shown location := by
  rw [shown, node?_tick, shown]

theorem linkFree_tick : fs.tick.LinkFree ↔ fs.LinkFree := by
  simp [LinkFree]

/-- A file system that shows what one without links shows has none either. -/
theorem AgreeOn.linkFree (h : AgreeOn (fun _ => True) fs fs') (hlinks : fs'.LinkFree) :
    fs.LinkFree := by
  intro location target hnode
  have hshown := h location trivial
  unfold shown at hshown
  rw [hnode] at hshown
  rcases hnode' : fs'.node? location with _ | (_ | file | target') <;>
    simp [hnode', Node.untimed] at hshown
  exact hlinks _ _ hnode'

/-- What shows the same is the same, or two files that differ in their times only. -/
theorem shown_eq {location : Location} (h : fs.shown location = fs'.shown location) :
    fs.node? location = fs'.node? location ∨
      ∃ file file', fs.node? location = some (.file file) ∧
        fs'.node? location = some (.file file') ∧ file.untimed = file'.untimed := by
  unfold shown at h
  rcases hnode : fs.node? location with _ | (_ | file | target) <;>
    rcases hnode' : fs'.node? location with _ | (_ | file' | target') <;>
    simp_all [Node.untimed]

/-- What shows the same differs in leaves at most. -/
theorem leafwise_of_shown {location : Location} (h : fs.shown location = fs'.shown location) :
    fs.node? location = fs'.node? location ∨ (fs.Leaf location ∧ fs'.Leaf location) := by
  rcases shown_eq h with hsame | ⟨file, file', hfile, hfile', -⟩
  · exact Or.inl hsame
  · exact Or.inr ⟨Or.inr ⟨file, hfile⟩, Or.inr ⟨file', hfile'⟩⟩

/-- What is put shows at its location, and the rest is as before. -/
theorem shown_put {location other : Location} {node node' : Node}
    (hshown : fs.shown other = fs'.shown other) (hnode : node.untimed = node'.untimed) :
    (fs.put location node).shown other = (fs'.put location node').shown other := by
  cases other with
  | nil => rfl
  | cons name parent =>
    unfold shown at hshown ⊢
    rw [node?_put _ _ _ (by simp), node?_put _ _ _ (by simp)]
    split
    · simp [hnode]
    · exact hshown

theorem shown_put_of_ne {location other : Location} {node : Node} (hother : other ≠ location) :
    (fs.put location node).shown other = fs.shown other := by
  rw [shown, node?_put_of_ne hother, shown]

/-- What is erased shows no more, and the rest is as before. -/
theorem shown_erase {location other : Location} (hother : other ≠ []) :
    (fs.erase location).shown other =
      if location <:+ other then none else fs.shown other := by
  unfold shown
  rw [node?_erase _ _ hother]
  by_cases hbelow : location <:+ other
  · rw [if_pos hbelow, if_pos (List.isSuffixOf_iff_suffix.mpr hbelow)]
    rfl
  · rw [if_neg hbelow, if_neg (fun h => hbelow (List.isSuffixOf_iff_suffix.mp h))]

theorem linkFree_erase (hlinks : fs.LinkFree) (location : Location) :
    (fs.erase location).LinkFree := by
  intro other target
  cases other with
  | nil => simp [node?]
  | cons name parent =>
    rw [node?_erase _ _ (by simp)]
    split
    · simp
    · exact hlinks _ _

theorem linkFree_put (hlinks : fs.LinkFree) (location : Location) {node : Node}
    (hnode : ∀ target, node ≠ .link target) : (fs.put location node).LinkFree := by
  intro other target
  cases other with
  | nil => simp [node?]
  | cons name parent =>
    rw [node?_put _ _ _ (by simp)]
    split
    · simp [hnode target]
    · exact hlinks _ _

theorem linkFree_empty : empty.LinkFree := by
  intro location target
  cases location <;> simp [node?, empty]

theorem linkFree_putDirectories (hlinks : fs.LinkFree) (location : Location) :
    (fs.putDirectories location).LinkFree := by
  induction location with
  | nil => exact hlinks
  | cons name parent ih =>
    unfold putDirectories
    dsimp only
    split
    · exact linkFree_put ih _ (by simp)
    · exact ih

/-! ## §2 Paths that agree -/

variable {here : Location}

/-- A path over locations that show the same names the same, or two files that differ in their times
only. -/
theorem resolve_agree (aim : Aim) (hlinks : fs.LinkFree) {path : Path}
    (hagree : AgreeOn (· ∈ path.trail here) fs fs') :
    fs.resolve here path aim = fs'.resolve here path aim ∨
      ∃ location file file', fs.resolve here path aim = .ok (.taken location (.file file)) ∧
        fs'.resolve here path aim = .ok (.taken location (.file file')) ∧
        file.untimed = file'.untimed := by
  rcases resolve_leafwise aim hlinks fun location hl => leafwise_of_shown (hagree location hl) with
    hsame | ⟨hmem, hleaf, -, hends, hends'⟩ | ⟨⟨location, hmem, hclash⟩, -⟩
  · exact Or.inl hsame
  · rcases shown_eq (hagree _ hmem) with hsame | ⟨file, file', hfile, hfile', huntimed⟩
    · exact Or.inl (by rw [hends, hends', placeAt, placeAt, hsame])
    · refine Or.inr ⟨path.place here, file, file', ?_, ?_, huntimed⟩
      · rw [hends, placeAt, hfile]
      · rw [hends', placeAt, hfile']
  · have hshown := congrArg Option.isSome (hagree location (Path.approach_subset hmem))
    exact absurd (by simpa [shown] using hshown) hclash

/-! ## §3 Reading -/

section

variable {path : Path} (hlinks : fs.LinkFree) (hagree : AgreeOn (· ∈ path.trail here) fs fs')
include hlinks hagree

theorem file?_agree : (fs.file? here path).isSome = (fs'.file? here path).isSome := by
  unfold file? stat
  rcases resolve_agree .find hlinks hagree with hsame | ⟨_, _, _, hfile, hfile', _⟩
  · rw [hsame]
  · rw [hfile, hfile']
    rfl

theorem readText_agree : fs.readText here path = fs'.readText here path := by
  unfold readText read stat
  rcases resolve_agree .find hlinks hagree with
    hsame | ⟨_, file, file', hfile, hfile', huntimed⟩
  · rw [hsame]
  · rw [hfile, hfile']
    dsimp only
    rw [(File.eq_of_untimed huntimed).1]

theorem readOptional_agree : fs.readOptional here path = fs'.readOptional here path := by
  unfold readOptional
  rw [readText_agree hlinks hagree]

end

/-! ## §4 Writing -/

/-- Without links a file is written where its path leads, at a leaf to which directories lead. -/
theorem write_place (hlinks : fs.LinkFree) {path : Path} {data : Bytes}
    (hwrite : fs.write here path data = .ok fs') :
    (∃ file, fs' = fs.put (path.place here) (.file file)) ∧ fs.Leaf (path.place here) ∧
      ∀ location ∈ path.approach here, fs.node? location = some .directory := by
  unfold write at hwrite
  split at hwrite
  · rename_i location hresolve
    have hwalk := (resolve_eq_ok.mp hresolve).2
    rcases walk_place hlinks hwalk with hplace | ⟨_, hplace⟩
    · obtain rfl := Place.free.inj hplace
      exact ⟨⟨_, (Except.ok.inj hwrite).symm⟩, Or.inl (seen_of_walk hwalk),
        directory_of_walk hlinks hwalk⟩
    · cases hplace
  · rename_i location old hresolve
    have hwalk := (resolve_eq_ok.mp hresolve).2
    rcases walk_place hlinks hwalk with hplace | ⟨_, hplace⟩
    · cases hplace
    · obtain ⟨rfl, -⟩ := Place.taken.inj hplace
      exact ⟨⟨_, (Except.ok.inj hwrite).symm⟩, Or.inr ⟨old, seen_of_walk hwalk⟩,
        directory_of_walk hlinks hwalk⟩
  · cases hwrite
  · cases hwrite

/-- Writing along locations that show the same fails in the same way, or puts the same file. -/
theorem write_agree (hlinks : fs.LinkFree) {path : Path} {data : Bytes}
    (hagree : AgreeOn (· ∈ path.trail here) fs fs') :
    (∃ cause, fs.write here path data = .error cause ∧ fs'.write here path data = .error cause) ∨
      ∃ location file file', fs.write here path data = .ok (fs.put location (.file file)) ∧
        fs'.write here path data = .ok (fs'.put location (.file file')) ∧
        file.untimed = file'.untimed := by
  unfold write
  rcases resolve_agree .make hlinks hagree with
    hsame | ⟨location, file, file', hfile, hfile', huntimed⟩
  · rw [← hsame]
    rcases fs.resolve here path .make with cause | (⟨location, _ | file | target⟩ | location)
    · exact Or.inl ⟨cause, rfl, rfl⟩
    · exact Or.inl ⟨_, rfl, rfl⟩
    · exact Or.inr ⟨location, _, _, rfl, rfl, rfl⟩
    · exact Or.inl ⟨_, rfl, rfl⟩
    · exact Or.inr ⟨location, _, _, rfl, rfl, rfl⟩
  · rw [hfile, hfile']
    exact Or.inr ⟨location, _, _, rfl, rfl, by
      simp [File.untimed, (File.eq_of_untimed huntimed).2]⟩

end FileSystem

end Exemplar
