/-
Exemplar.Proofs.Walk — where walks end, and what keeps them there.

  §1 one step of a walk
  §2 a walk over steps cut in two
  §3 where a walk ends
  §4 what keeps directories
-/
import Exemplar.FileSystem.Access
import Exemplar.Proofs.Paths

namespace Exemplar.FileSystem

variable (fs : FileSystem) (aim : Aim) (links : Nat) (here : Location)

/-! ## §1 One step of a walk -/

@[simp] theorem walk_nil : fs.walk aim links here [] = .ok (.taken here .directory) := by
  cases links <;> rfl

/-- A step that enters nothing moves the walk. -/
theorem walk_move {step : Step} (hstep : ∀ name, step ≠ .into name) (rest : List Step) :
    fs.walk aim links here (step :: rest) = fs.walk aim links (step.from here) rest := by
  cases step with
  | into name => exact absurd rfl (hstep name)
  | slash => cases links <;> rfl
  | stay => cases links <;> rfl
  | up => cases links <;> rfl

/-- Where a walk goes on from a link. -/
def follow (here : Location) (steps : List Step) : Except Errno Place :=
  match links with
  | 0 => .error .linkLoop
  | links + 1 => fs.walk aim links here steps

theorem walk_into (name : Name) (rest : List Step) :
    fs.walk aim links here (.into name :: rest) =
      if aim = .make && endsInSlash rest then .error .isDirectory
      else if nameLimit < name.size then .error .nameTooLong
      else
        match fs.node? (name :: here) with
        | none => if rest.isEmpty then .ok (.free (name :: here)) else .error .noEntry
        | some .directory => fs.walk aim links (name :: here) rest
        | some (.file file) =>
          if rest.isEmpty then .ok (.taken (name :: here) (.file file)) else .error .notDirectory
        | some (.link target) =>
          fs.follow aim links (originOfBytes here target) (Path.stepsOfBytes target ++ rest) := by
  cases links <;> rfl

/-- Induction along a walk: over its steps, and at a link over all walks with fewer links left. -/
@[elab_as_elim]
theorem walk_induction {motive : Nat → Location → List Step → Prop}
    (nil : ∀ links here, motive links here [])
    (move : ∀ links here step rest, (∀ name, step ≠ .into name) →
      motive links (step.from here) rest → motive links here (step :: rest))
    (into : ∀ links here name rest, motive links (name :: here) rest →
      (∀ fewer, fewer < links → ∀ here steps, motive fewer here steps) →
      motive links here (.into name :: rest))
    (links : Nat) (here : Location) (steps : List Step) : motive links here steps := by
  induction links using Nat.strongRecOn generalizing here steps with
  | ind links ihlinks =>
    induction steps generalizing here with
    | nil => exact nil links here
    | cons step rest ih =>
      cases step with
      | into name => exact into links here name rest (ih _) ihlinks
      | slash => exact move links here .slash rest (by simp) (ih _)
      | stay => exact move links here .stay rest (by simp) (ih _)
      | up => exact move links here .up rest (by simp) (ih _)

/-! ## §2 A walk over steps cut in two -/

/-- A walk that ends well has a directory at each point on its way, from which the rest of it does
not depend on how it came there. -/
theorem walk_append {links : Nat} {here : Location} {front back : List Step} {place : Place}
    (hback : back ≠ []) (hwalk : fs.walk .find links here (front ++ back) = .ok place) :
    ∃ links' middle, ∀ rest,
      fs.walk .find links here (front ++ rest) = fs.walk .find links' middle rest := by
  induction links, here, front using walk_induction with
  | nil links here => exact ⟨links, here, fun rest => rfl⟩
  | move links here step front hstep ih =>
    simp only [List.cons_append, walk_move _ _ _ _ hstep] at hwalk ⊢
    exact ih hwalk
  | into links here name front ih ihlinks =>
    simp only [List.cons_append, walk_into, reduceCtorEq, decide_false, Bool.false_and,
      Bool.false_eq_true, if_false] at hwalk ⊢
    by_cases hsize : nameLimit < name.size
    · simp [hsize] at hwalk
    simp only [hsize, if_false] at hwalk ⊢
    cases hnode : fs.node? (name :: here) with
    | none => simp [hnode, hback] at hwalk
    | some node =>
      cases node with
      | directory =>
        simp only [hnode] at hwalk ⊢
        exact ih hwalk
      | file file => simp [hnode, hback] at hwalk
      | link target =>
        cases links with
        | zero => simp [hnode, follow] at hwalk
        | succ links =>
          simp only [hnode, follow, ← List.append_assoc] at hwalk ⊢
          exact ihlinks links (Nat.lt_succ_self links) _ _ hwalk

/-! ## §3 Where a walk ends -/

variable {fs aim links here}

/-- Whether a place is as it is seen, where no directory is claimed to be. -/
def Seen (fs : FileSystem) : Place → Prop
  | .free location => fs.node? location = none
  | .taken _ .directory => True
  | .taken location node => fs.node? location = some node

/-- A walk that ends at a location other than a directory ends at what is seen there. -/
theorem seen_of_walk {steps : List Step} {place : Place}
    (hwalk : fs.walk aim links here steps = .ok place) : fs.Seen place := by
  induction links, here, steps using walk_induction with
  | nil links here =>
    rw [walk_nil] at hwalk
    obtain rfl := Except.ok.inj hwalk
    trivial
  | move links here step rest hstep ih =>
    rw [walk_move _ _ _ _ hstep] at hwalk
    exact ih hwalk
  | into links here name rest ih ihlinks =>
    rw [walk_into] at hwalk
    split at hwalk
    · cases hwalk
    split at hwalk
    · cases hwalk
    rcases hnode : fs.node? (name :: here) with _ | (_ | file | target) <;> rw [hnode] at hwalk <;>
      dsimp only at hwalk
    · split at hwalk
      · obtain rfl := Except.ok.inj hwalk
        exact hnode
      · cases hwalk
    · exact ih hwalk
    · split at hwalk
      · obtain rfl := Except.ok.inj hwalk
        exact hnode
      · cases hwalk
    · cases links with
      | zero => cases hwalk
      | succ links => exact ihlinks links (Nat.lt_succ_self links) _ _ hwalk

/-- A path that the system looks at: not empty, without a zero, and not too long. -/
structure Admissible (path : Path) : Prop where
  noZero : '\x00' ∉ path.text.toList
  nonempty : path.text ≠ ""
  short : path.text.utf8ByteSize < pathLimit

/-- A path names a place if it is looked at and the walk along it ends there. -/
theorem resolve_eq_ok {path : Path} {place : Place} :
    fs.resolve here path aim = .ok place ↔
      Admissible path ∧ fs.walk aim linkLimit (origin here path) path.steps = .ok place := by
  constructor
  · intro h
    unfold resolve at h
    split at h
    · cases h
    rename_i hzero
    split at h
    · cases h
    rename_i hempty
    split at h
    · cases h
    rename_i hlong
    refine ⟨⟨by simpa using hzero, hempty, by omega⟩, ?_⟩
    split at h
    · rename_i place' hwalk
      rw [hwalk, Except.ok.inj h]
    · cases h
  · rintro ⟨⟨hzero, hempty, hshort⟩, hwalk⟩
    unfold resolve
    rw [if_neg (by simpa using hzero), if_neg hempty, if_neg (by omega), hwalk]

/-- The bytes of a path lead where it does. -/
theorem resolveBytes_encode (fs : FileSystem) (here : Location) (path : Path) (aim : Aim) :
    fs.resolveBytes here (Utf8.encode path.text) aim = fs.resolve here path aim := by
  have hchar (c : Char) : 0 ∈ String.utf8EncodeChar c ↔ c = '\x00' :=
    Utf8.mem_encodeChar (by decide)
  have hzero : 0 ∈ Utf8.encode path.text ↔ '\x00' ∈ path.text.toList := by
    simp [Utf8.encode, hchar]
  have hempty : Utf8.encode path.text = [] ↔ path.text = "" := by
    rw [← List.length_eq_zero_iff, Utf8.length_encode, String.utf8ByteSize_eq_zero_iff]
  simp only [resolveBytes, resolve, List.contains_iff_mem, hzero, hempty, Utf8.length_encode,
    originOfBytes_encode, Path.stepsOfBytes_encode]

/-- The result of resolving a path that is looked at is that of walking it. -/
theorem resolve_of_admissible (aim : Aim) {path : Path} (hpath : Admissible path) :
    fs.resolve here path aim =
      (fs.walk aim linkLimit (origin here path) path.steps).mapError .system := by
  unfold resolve
  rw [if_neg (by simpa using hpath.noZero), if_neg hpath.nonempty,
    if_neg (by have := hpath.short; omega)]
  cases fs.walk aim linkLimit (origin here path) path.steps <;> rfl

/-- A path leads to a directory if the walk along it ends at one. -/
theorem isDirectory_iff {path : Path} :
    fs.isDirectory here path = true ↔
      ∃ location, fs.resolve here path = .ok (.taken location .directory) := by
  unfold isDirectory stat
  cases hresolve : fs.resolve here path with
  | error cause => simp
  | ok place =>
    cases place with
    | free location => simp
    | taken location node => cases node <;> simp

/-! ## §4 What keeps directories -/

/-- Whether directories and links of a file system are still there in another one. -/
structure Keeps (fs fs' : FileSystem) : Prop where
  directory : ∀ location, fs.node? location = some .directory →
    fs'.node? location = some .directory
  link : ∀ location target, fs.node? location = some (.link target) →
    fs'.node? location = some (.link target)

namespace Keeps

variable {fs' : FileSystem}

/-- A walk that ends at a directory does so as long as directories and links are kept. -/
theorem walk (hkeeps : Keeps fs fs') {links : Nat} {here location : Location} {steps : List Step}
    (hwalk : fs.walk .find links here steps = .ok (.taken location .directory)) :
    fs'.walk .find links here steps = .ok (.taken location .directory) := by
  induction links, here, steps using walk_induction with
  | nil links here =>
    rw [walk_nil] at hwalk ⊢
    exact hwalk
  | move links here step rest hstep ih =>
    rw [walk_move _ _ _ _ hstep] at hwalk ⊢
    exact ih hwalk
  | into links here name rest ih ihlinks =>
    simp only [walk_into, reduceCtorEq, decide_false, Bool.false_and, Bool.false_eq_true,
      if_false] at hwalk ⊢
    split at hwalk
    · cases hwalk
    rename_i hsize
    rw [if_neg hsize]
    rcases hnode : fs.node? (name :: here) with _ | (_ | file | target) <;> rw [hnode] at hwalk <;>
      dsimp only at hwalk
    · split at hwalk <;> cases hwalk
    · rw [hkeeps.directory _ hnode]
      exact ih hwalk
    · split at hwalk <;> cases hwalk
    · rw [hkeeps.link _ _ hnode]
      cases links with
      | zero => cases hwalk
      | succ links => exact ihlinks links (Nat.lt_succ_self links) _ _ hwalk

/-- A path leads to a directory as long as directories and links are kept. -/
theorem isDirectory (hkeeps : Keeps fs fs') {here : Location} {path : Path}
    (hpath : fs.isDirectory here path = true) : fs'.isDirectory here path = true := by
  obtain ⟨location, hresolve⟩ := isDirectory_iff.mp hpath
  obtain ⟨hadmissible, hwalk⟩ := resolve_eq_ok.mp hresolve
  exact isDirectory_iff.mpr ⟨location, resolve_eq_ok.mpr ⟨hadmissible, hkeeps.walk hwalk⟩⟩

end Keeps

/-- Time keeps all there is. -/
theorem keeps_tick (fs : FileSystem) : Keeps fs fs.tick where
  directory location h := by rw [node?_tick, h]
  link location target h := by rw [node?_tick, h]

/-- A file put where there was nothing, or another file, leaves directories and links alone. -/
theorem keeps_put {location : Location} {file : File}
    (hplace : fs.node? location = none ∨ ∃ old, fs.node? location = some (.file old)) :
    Keeps fs (fs.put location (.file file)) := by
  have hother : ∀ other node, (∀ old, node ≠ .file old) → fs.node? other = some node →
      (fs.put location (.file file)).node? other = some node := by
    intro other node hnode hother
    cases other with
    | nil => simpa [node?] using hother
    | cons name parent =>
      rw [node?_put _ _ _ (by simp)]
      split
      · rename_i heq
        rw [heq] at hother
        rcases hplace with hnone | ⟨old, hold⟩
        · rw [hnone] at hother
          cases hother
        · rw [hold] at hother
          exact absurd (Option.some.inj hother).symm (hnode old)
      · exact hother
  exact ⟨fun other h => hother other .directory (by simp) h,
    fun other target h => hother other (.link target) (by simp) h⟩

/-- Writing puts one file, where there was nothing or a file. -/
theorem write_eq_ok {path : Path} {data : Bytes} {fs' : FileSystem}
    (hwrite : fs.write here path data = .ok fs') :
    ∃ location file, fs' = fs.put location (.file file) ∧ file.data = data ∧
      (fs.node? location = none ∨ ∃ old, fs.node? location = some (.file old)) := by
  unfold write at hwrite
  split at hwrite
  · rename_i location hresolve
    refine ⟨location, _, (Except.ok.inj hwrite).symm, rfl, Or.inl ?_⟩
    exact seen_of_walk (resolve_eq_ok.mp hresolve).2
  · rename_i location old hresolve
    refine ⟨location, _, (Except.ok.inj hwrite).symm, rfl, Or.inr ⟨old, ?_⟩⟩
    exact seen_of_walk (resolve_eq_ok.mp hresolve).2
  · cases hwrite
  · cases hwrite

/-- Writing a file keeps directories and links. -/
theorem keeps_write {path : Path} {data : Bytes} {fs' : FileSystem}
    (hwrite : fs.write here path data = .ok fs') : Keeps fs fs' := by
  obtain ⟨location, file, rfl, -, hplace⟩ := write_eq_ok hwrite
  exact keeps_put hplace

end Exemplar.FileSystem
