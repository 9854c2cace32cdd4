/-
Exemplar.Proofs.Discovery — which examples are found below a root.

An example is a name of an entry of the root from which the path leads to a directory. Every such
name is found, once, and nothing else is; whatever the other entries are, they are passed over. Only
the root itself can make the discovery fail, and it does unless it leads to a directory.

  §1 listings
  §2 what is found below a root
  §3 discovery
-/
import Exemplar.Proofs.Batch
import Exemplar.Proofs.Resolution
import Mathlib.Data.List.Nodup

namespace Exemplar

/-! ## §1 Listings -/

namespace FileSystem

variable {fs : FileSystem} {here location : Location} {path : Path}

/-- The name of a location right below another one. -/
def nameIn (parent : Location) : Location → Option Name
  | [] => none
  | name :: above => if above = parent then some name else none

theorem nameIn_eq_some {parent : Location} {name : Name} :
    nameIn parent location = some name ↔ location = name :: parent := by
  cases location with
  | nil => simp [nameIn]
  | cons other above => simp [nameIn, and_comm]

/-- A listing has every name once, as each entry has its own location. -/
theorem nodup_children (fs : FileSystem) (location : Location) : (fs.children location).Nodup := by
  have hchildren : fs.children location =
      (fs.entries.map Prod.fst).filterMap (nameIn location) := by
    rw [List.filterMap_map]
    rfl
  rw [hchildren]
  refine List.Nodup.filterMap (fun one other name hone hother => ?_) fs.nodup
  rw [Option.mem_def, nameIn_eq_some] at hone hother
  rw [hone, hother]

/-- A path leads to a directory if it ends at one. -/
theorem isDirectory_iff_ends : fs.isDirectory here path = true ↔
    ∃ location, fs.Ends here path (.directory location) := by
  simp only [isDirectory, stat_eq_found, ← found_eq_directory]
  rcases fs.found here path with cause | ⟨location, _ | _ | _⟩ <;> simp [Except.map]

end FileSystem

/-! ## §2 What is found below a root -/

namespace Registry

variable {fs : FileSystem} {here location : Location} {root : Path} {registry : Registry}
  {name : String}

/-- The name of an entry is that of an example if its path leads to a directory. -/
theorem exampleName?_eq_some {entry : Name} : exampleName? fs here root entry = some name ↔
    entry = .text name ∧ fs.isDirectory here (root / name) = true := by
  cases entry with
  | text text =>
    rw [exampleName?, Name.text?, Name.text.injEq]
    dsimp only
    split
    · rename_i hdirectory
      exact ⟨fun h => ⟨Option.some.inj h, Option.some.inj h ▸ hdirectory⟩, fun h => congrArg _ h.1⟩
    · rename_i hother
      exact ⟨fun h => (by cases h), fun h => absurd (h.1 ▸ h.2) hother⟩
  | raw bytes => simp [exampleName?, Name.text?]

/-- Below a root that leads to a directory, the examples are found among its entries. -/
theorem discover_of_ends (hroot : fs.Ends here root (.directory location)) :
    discover fs here root =
      .ok ((fs.children location).filterMap (exampleName? fs here root)) := by
  rw [discover, FileSystem.list_eq_found, hroot.found]
  rfl

/-- The examples found are the entries of which the path leads to a directory. -/
theorem mem_of_discover (hroot : fs.Ends here root (.directory location))
    (hdiscover : discover fs here root = .ok registry) :
    name ∈ registry ↔ fs.node? (.text name :: location) ≠ none ∧
      ∃ target, fs.Ends here (root / name) (.directory target) := by
  obtain rfl := Except.ok.inj ((discover_of_ends hroot).symm.trans hdiscover)
  rw [List.mem_filterMap, ← FileSystem.mem_children, ← FileSystem.isDirectory_iff_ends]
  constructor
  · rintro ⟨entry, hlisted, hname⟩
    obtain ⟨rfl, hdirectory⟩ := exampleName?_eq_some.mp hname
    exact ⟨hlisted, hdirectory⟩
  · rintro ⟨hlisted, hdirectory⟩
    exact ⟨_, hlisted, exampleName?_eq_some.mpr ⟨rfl, hdirectory⟩⟩

/-- Each example is found once. -/
theorem nodup_of_discover (hroot : fs.Ends here root (.directory location))
    (hdiscover : discover fs here root = .ok registry) : registry.Nodup := by
  obtain rfl := Except.ok.inj ((discover_of_ends hroot).symm.trans hdiscover)
  refine List.Nodup.filterMap (fun one other name hone hother => ?_) (fs.nodup_children location)
  obtain ⟨rfl, -⟩ := exampleName?_eq_some.mp hone
  obtain ⟨rfl, -⟩ := exampleName?_eq_some.mp hother
  rfl

/-- An example stands in the root as a directory or as a link. -/
theorem entry_of_discover (hroot : fs.Ends here root (.directory location))
    (hdiscover : discover fs here root = .ok registry) (hname : Path.isComponent name = true)
    (hmem : name ∈ registry) : fs.node? (.text name :: location) = some .directory ∨
      ∃ target, fs.node? (.text name :: location) = some (.link target) := by
  obtain ⟨-, target, htarget⟩ := (mem_of_discover hroot hdiscover).mp hmem
  obtain ⟨links, parent, hresolve, hwalk⟩ :=
    FileSystem.resolve_component hroot.1 hname htarget.resolve
  obtain rfl : location = parent := by
    have hsame := hroot.resolve.symm.trans hresolve
    exact (Place.taken.inj (Except.ok.inj hsame)).1
  rw [FileSystem.walk_into] at hwalk
  split at hwalk
  · cases hwalk
  split at hwalk
  · cases hwalk
  rcases hnode : fs.node? (.text name :: location) with _ | (_ | file | target) <;>
    rw [hnode] at hwalk
  · cases hwalk
  · exact Or.inl rfl
  · cases hwalk
  · exact Or.inr ⟨target, rfl⟩

/-! ## §3 Discovery -/

/-- Whether a root cannot be listed, and why. -/
inductive Unlisted (fs : FileSystem) (here : Location) (root : Path) : Cause → Prop
  | absent (habsent : fs.Absent here root) : Unlisted fs here root (.system .noEntry)
  | file {location : Location} {file : File} (hends : fs.Ends here root (.file location file)) :
      Unlisted fs here root (.system .notDirectory)
  | refused {cause : Cause} (hrefused : fs.Refused here root cause) : Unlisted fs here root cause

/-- A root that cannot be listed makes the discovery fail. -/
theorem Unlisted.discover {cause : Cause} (h : Unlisted fs here root cause) :
    discover fs here root = .error (.registry root cause) := by
  rw [Registry.discover, FileSystem.list_eq_found]
  cases h with
  | absent habsent => rw [habsent.found]
  | file hends => rw [hends.found]; rfl
  | refused hrefused => rw [hrefused.found]

/-- A discovery finds the examples of a root that leads to a directory, or fails with the root and
the cause. -/
theorem discover_cases (fs : FileSystem) (here : Location) (root : Path) :
    (∃ location registry, fs.Ends here root (.directory location) ∧
      discover fs here root = .ok registry) ∨
    ∃ cause, Unlisted fs here root cause ∧
      discover fs here root = .error (.registry root cause) := by
  have hfails {cause : Cause} (h : Unlisted fs here root cause) :
      ∃ cause, Unlisted fs here root cause ∧
        discover fs here root = .error (.registry root cause) := ⟨cause, h, h.discover⟩
  rcases fs.path_cases here root with ⟨location, h⟩ | ⟨location, file, h⟩ | h | ⟨cause, h⟩
  · exact Or.inl ⟨location, _, h, discover_of_ends h⟩
  · exact Or.inr (hfails (.file h))
  · exact Or.inr (hfails (.absent h))
  · exact Or.inr (hfails (.refused h))

/-- What is said of the discovery below a root. It succeeds exactly if the root leads to a
directory. Then it has each name once, and it has the names of those entries of the directory from
which the path leads to a directory, links followed. So it leaves out what leads to a file or to
nothing or in a circle, and of the entries themselves all but directories and links. Otherwise it
fails with the root and the cause for which that leads to no directory. -/
structure Discovers (fs : FileSystem) (here : Location) (root : Path) : Prop where
  succeeds : (∃ registry, discover fs here root = .ok registry) ↔
    ∃ location, fs.Ends here root (.directory location)
  names : ∀ registry location, discover fs here root = .ok registry →
    fs.Ends here root (.directory location) → registry.Nodup ∧
      ∀ name, name ∈ registry ↔ fs.node? (.text name :: location) ≠ none ∧
        ∃ target, fs.Ends here (root / name) (.directory target)
  leavesOut : ∀ registry name, discover fs here root = .ok registry →
    (∃ location file, fs.Ends here (root / name) (.file location file)) ∨
      fs.Absent here (root / name) ∨ fs.Circles here (root / name) → name ∉ registry
  entries : ∀ registry location name, discover fs here root = .ok registry →
    fs.Ends here root (.directory location) → Path.isComponent name = true → name ∈ registry →
      fs.node? (.text name :: location) = some .directory ∨
        ∃ target, fs.node? (.text name :: location) = some (.link target)
  fails : ∀ failure, discover fs here root = .error failure ↔
    ∃ cause, failure = .registry root cause ∧ Unlisted fs here root cause

/-- Discovery finds all examples below a root, and nothing else. -/
theorem discover_discovers (fs : FileSystem) (here : Location) (root : Path) :
    Discovers fs here root := by
  refine ⟨?succeeds, fun registry location hdiscover hroot => ?names,
    fun registry name hdiscover hother hmem => ?leavesOut,
    fun registry location name hdiscover hroot => entry_of_discover hroot hdiscover,
    fun failure => ?fails⟩
  case succeeds =>
    constructor
    · rintro ⟨registry, hdiscover⟩
      rcases discover_cases fs here root with ⟨location, -, hroot, -⟩ | ⟨cause, -, hfail⟩
      · exact ⟨location, hroot⟩
      · cases hdiscover.symm.trans hfail
    · rintro ⟨location, hroot⟩
      exact ⟨_, discover_of_ends hroot⟩
  case names =>
    exact ⟨nodup_of_discover hroot hdiscover, fun name => mem_of_discover hroot hdiscover⟩
  case leavesOut =>
    rcases discover_cases fs here root with ⟨location, -, hroot, -⟩ | ⟨cause, -, hfail⟩
    · obtain ⟨-, target, htarget⟩ := (mem_of_discover hroot hdiscover).mp hmem
      rcases hother with ⟨location, file, hfile⟩ | habsent | hcircles
      · cases htarget.found.symm.trans hfile.found
      · cases htarget.found.symm.trans habsent.found
      · obtain ⟨cause, hrefused⟩ := hcircles.refused htarget.1.nonempty
        cases htarget.found.symm.trans hrefused.found
    · cases hdiscover.symm.trans hfail
  case fails =>
    constructor
    · intro hfail
      rcases discover_cases fs here root with ⟨-, registry, -, hdiscover⟩ | ⟨cause, hcause, heq⟩
      · cases hfail.symm.trans hdiscover
      · exact ⟨cause, Except.error.inj (hfail.symm.trans heq), hcause⟩
    · rintro ⟨cause, rfl, hcause⟩
      exact hcause.discover

end Registry

end Exemplar
