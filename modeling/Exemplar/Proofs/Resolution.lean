/-
Exemplar.Proofs.Resolution — why a path resolves, or does not.

A walk is a way from one point to another: a point is a directory and the steps still to go from it,
and each link on the way is one more that was followed. A way that goes on for as long as it can
stops at a directory, a file or a name with nothing under it, or before a name that is too long or
steps behind a file; if it does not stop within the links that are allowed, the path is tangled. So
every path comes to one of these ends, and each of them is one answer of the system. A path that
leads in a circle is tangled, since the way goes round as often as one likes.

  §1 ways
  §2 where a way stops
  §3 walks
  §4 paths
  §5 links that lead to nothing or in a circle
-/
import Exemplar.Proofs.Walk

namespace Exemplar.FileSystem

variable {fs : FileSystem} {links more : Nat} {here there : Location} {steps left rest : List Step}

/-! ## §1 Ways -/

/-- Whether a way leads from one point to another through so many links. -/
inductive Reaches (fs : FileSystem) :
    Nat → Location → List Step → Location → List Step → Prop
  | refl {here : Location} {steps : List Step} : Reaches fs 0 here steps here steps
  | move {links : Nat} {here there : Location} {step : Step} {rest left : List Step}
      (hstep : ∀ name, step ≠ .into name)
      (hrest : Reaches fs links (step.from here) rest there left) :
      Reaches fs links here (step :: rest) there left
  | enter {links : Nat} {here there : Location} {name : Name} {rest left : List Step}
      (hsize : name.size ≤ nameLimit) (hnode : fs.node? (name :: here) = some .directory)
      (hrest : Reaches fs links (name :: here) rest there left) :
      Reaches fs links here (.into name :: rest) there left
  | follow {links : Nat} {here there : Location} {name : Name} {target : Bytes}
      {rest left : List Step} (hsize : name.size ≤ nameLimit)
      (hnode : fs.node? (name :: here) = some (.link target))
      (hrest : Reaches fs links (originOfBytes here target) (Path.stepsOfBytes target ++ rest)
        there left) :
      Reaches fs (links + 1) here (.into name :: rest) there left

namespace Reaches

/-- Two ways make one, and their links add up. -/
theorem trans {middle : Location} {between : List Step}
    (hfirst : fs.Reaches links here steps middle between)
    (hsecond : fs.Reaches more middle between there left) :
    fs.Reaches (links + more) here steps there left := by
  induction hfirst with
  | refl => rwa [Nat.zero_add]
  | move hstep _ ih => exact .move hstep (ih hsecond)
  | enter hsize hnode _ ih => exact .enter hsize hnode (ih hsecond)
  | follow hsize hnode _ ih =>
    rw [Nat.add_right_comm]
    exact .follow hsize hnode (ih hsecond)

/-- Steps that come after those of a way are still to go at its end. -/
theorem append (hway : fs.Reaches links here steps there left) (rest : List Step) :
    fs.Reaches links here (steps ++ rest) there (left ++ rest) := by
  induction hway with
  | refl => exact .refl
  | move hstep _ ih => exact .move hstep ih
  | enter hsize hnode _ ih => exact .enter hsize hnode ih
  | follow hsize hnode _ ih =>
    rw [List.append_assoc] at ih
    exact .follow hsize hnode ih

/-- A way leads through any fewer links on its way. -/
theorem cut (hway : fs.Reaches links here steps there left) {fewer : Nat} (hfewer : fewer ≤ links) :
    ∃ there left, fs.Reaches fewer here steps there left := by
  induction hway generalizing fewer with
  | refl =>
    obtain rfl := Nat.le_zero.mp hfewer
    exact ⟨_, _, .refl⟩
  | move hstep _ ih =>
    obtain ⟨there, left, hway⟩ := ih hfewer
    exact ⟨there, left, .move hstep hway⟩
  | enter hsize hnode _ ih =>
    obtain ⟨there, left, hway⟩ := ih hfewer
    exact ⟨there, left, .enter hsize hnode hway⟩
  | follow hsize hnode _ ih =>
    cases fewer with
    | zero => exact ⟨_, _, .refl⟩
    | succ fewer =>
      obtain ⟨there, left, hway⟩ := ih (Nat.le_of_succ_le_succ hfewer)
      exact ⟨there, left, .follow hsize hnode hway⟩

end Reaches

/-! ## §2 Where a way stops -/

/-- What a way can stop at. -/
inductive Stop where
  /-- A directory, with no steps left. -/
  | directory (location : Location)
  /-- A regular file, with no steps left. -/
  | file (location : Location) (file : File)
  /-- A name under which there is nothing. -/
  | missing
  /-- A regular file, with steps left. -/
  | blocked
  /-- A name that is too long. -/
  | overlong
  deriving DecidableEq, Repr

/-- Whether a way goes on from no point but stops there, and at what. -/
inductive StopsAt (fs : FileSystem) : Location → List Step → Stop → Prop
  | directory {here : Location} : StopsAt fs here [] (.directory here)
  | file {here : Location} {name : Name} {file : File} (hsize : name.size ≤ nameLimit)
      (hnode : fs.node? (name :: here) = some (.file file)) :
      StopsAt fs here [.into name] (.file (name :: here) file)
  | missing {here : Location} {name : Name} {rest : List Step} (hsize : name.size ≤ nameLimit)
      (hnode : fs.node? (name :: here) = none) : StopsAt fs here (.into name :: rest) .missing
  | blocked {here : Location} {name : Name} {file : File} {next : Step} {rest : List Step}
      (hsize : name.size ≤ nameLimit) (hnode : fs.node? (name :: here) = some (.file file)) :
      StopsAt fs here (.into name :: next :: rest) .blocked
  | overlong {here : Location} {name : Name} {rest : List Step} (hsize : nameLimit < name.size) :
      StopsAt fs here (.into name :: rest) .overlong

/-- Whether a way stops within so many links, and at what. -/
def StopsWithin (fs : FileSystem) (links : Nat) (here : Location) (steps : List Step)
    (stop : Stop) : Prop :=
  ∃ fewer there left, fewer ≤ links ∧ fs.Reaches fewer here steps there left ∧
    fs.StopsAt there left stop

theorem StopsAt.within {stop : Stop} (hstop : fs.StopsAt here steps stop) (links : Nat) :
    fs.StopsWithin links here steps stop :=
  ⟨0, here, steps, Nat.zero_le links, .refl, hstop⟩

/-- What is found at a stop, and where. -/
def Stop.found : Stop → Except Errno (Location × Node)
  | .directory location => .ok (location, .directory)
  | .file location content => .ok (location, .file content)
  | .missing => .error .noEntry
  | .blocked => .error .notDirectory
  | .overlong => .error .nameTooLong

/-! ## §3 Walks -/

/-- What is found at the end of a walk: a free place is where nothing is found. -/
def foundBy : Except Errno Place → Except Errno (Location × Node)
  | .ok (.taken location node) => .ok (location, node)
  | .ok (.free _) => .error .noEntry
  | .error errno => .error errno

/-- A walk goes the way, and on from its end with the links that are left. -/
theorem Reaches.walk (hway : fs.Reaches links here steps there left) (more : Nat) :
    fs.walk .find (more + links) here steps = fs.walk .find more there left := by
  induction hway with
  | refl => rfl
  | move hstep _ ih => rw [walk_move _ _ _ _ hstep, ih]
  | enter hsize hnode _ ih => simp [walk_into, Nat.not_lt.mpr hsize, hnode, ih]
  | follow hsize hnode _ ih =>
    simp [walk_into, Nat.not_lt.mpr hsize, hnode, ← Nat.add_assoc, FileSystem.follow, ih]

/-- A walk gives up on a way through more links than it may follow. -/
theorem Reaches.walk_loop (hway : fs.Reaches more here steps there left) (hmore : links < more) :
    fs.walk .find links here steps = .error .linkLoop := by
  induction hway generalizing links with
  | refl => cases hmore
  | move hstep _ ih => rw [walk_move _ _ _ _ hstep, ih hmore]
  | enter hsize hnode _ ih => simp [walk_into, Nat.not_lt.mpr hsize, hnode, ih hmore]
  | follow hsize hnode _ ih =>
    simp only [walk_into, Nat.not_lt.mpr hsize, hnode]
    cases links with
    | zero => rfl
    | succ links => exact ih (Nat.lt_of_succ_lt_succ hmore)

/-- A walk ends where the way stops. -/
theorem StopsAt.walk {stop : Stop} (hstop : fs.StopsAt here steps stop) :
    foundBy (fs.walk .find links here steps) = stop.found := by
  cases hstop with
  | directory => rw [walk_nil]; rfl
  | file hsize hnode => simp [walk_into, Nat.not_lt.mpr hsize, hnode, foundBy, Stop.found]
  | @missing name rest hsize hnode =>
    cases rest <;> simp [walk_into, Nat.not_lt.mpr hsize, hnode, foundBy, Stop.found]
  | blocked hsize hnode => simp [walk_into, Nat.not_lt.mpr hsize, hnode, foundBy, Stop.found]
  | overlong hsize => simp [walk_into, hsize, foundBy, Stop.found]

/-- Every way stops within so many links, or goes on through one more. -/
theorem exists_stop (fs : FileSystem) (links : Nat) (here : Location) (steps : List Step) :
    (∃ stop, fs.StopsWithin links here steps stop) ∨
      ∃ there left, fs.Reaches (links + 1) here steps there left := by
  induction links, here, steps using walk_induction with
  | nil links here => exact Or.inl ⟨_, StopsAt.directory.within links⟩
  | move links here step rest hstep ih =>
    rcases ih with ⟨stop, fewer, there, left, hfewer, hway, hstop⟩ | ⟨there, left, hway⟩
    · exact Or.inl ⟨stop, fewer, there, left, hfewer, .move hstep hway, hstop⟩
    · exact Or.inr ⟨there, left, .move hstep hway⟩
  | into links here name rest ih ihlinks =>
    rcases Nat.lt_or_ge nameLimit name.size with hsize | hsize
    · exact Or.inl ⟨_, (StopsAt.overlong hsize).within links⟩
    rcases hnode : fs.node? (name :: here) with _ | (_ | file | target)
    · exact Or.inl ⟨_, (StopsAt.missing hsize hnode).within links⟩
    · rcases ih with ⟨stop, fewer, there, left, hfewer, hway, hstop⟩ | ⟨there, left, hway⟩
      · exact Or.inl ⟨stop, fewer, there, left, hfewer, .enter hsize hnode hway, hstop⟩
      · exact Or.inr ⟨there, left, .enter hsize hnode hway⟩
    · cases rest with
      | nil => exact Or.inl ⟨_, (StopsAt.file hsize hnode).within links⟩
      | cons next rest => exact Or.inl ⟨_, (StopsAt.blocked hsize hnode).within links⟩
    · cases links with
      | zero => exact Or.inr ⟨_, _, .follow hsize hnode .refl⟩
      | succ links =>
        rcases ihlinks links (Nat.lt_succ_self links) _ _ with
          ⟨stop, fewer, there, left, hfewer, hway, hstop⟩ | ⟨there, left, hway⟩
        · exact Or.inl ⟨stop, fewer + 1, there, left, Nat.succ_le_succ hfewer,
            .follow hsize hnode hway, hstop⟩
        · exact Or.inr ⟨there, left, .follow hsize hnode hway⟩

/-- A walk finds what the way stops at. -/
theorem StopsWithin.walk {stop : Stop} (hstop : fs.StopsWithin links here steps stop) :
    foundBy (fs.walk .find links here steps) = stop.found := by
  obtain ⟨fewer, there, left, hfewer, hway, hstop⟩ := hstop
  obtain ⟨more, rfl⟩ := Nat.exists_eq_add_of_le' hfewer
  rw [hway.walk more]
  exact hstop.walk

/-! ## §4 Paths -/

variable {path : Path} {location : Location}

/-- Whether a path ends at a stop, within the links that are allowed. -/
def Ends (fs : FileSystem) (here : Location) (path : Path) (stop : Stop) : Prop :=
  Admissible path ∧ fs.StopsWithin linkLimit (origin here path) path.steps stop

/-- Whether a path leads through more links than are allowed. -/
def Tangled (fs : FileSystem) (here : Location) (path : Path) : Prop :=
  Admissible path ∧
    ∃ there left, fs.Reaches (linkLimit + 1) (origin here path) path.steps there left

/-- Whether a path fails because something does not exist. -/
def Absent (fs : FileSystem) (here : Location) (path : Path) : Prop :=
  path.text = "" ∨ fs.Ends here path .missing

/-- Whether a path fails for another reason, and for which. -/
inductive Refused (fs : FileSystem) (here : Location) (path : Path) : Cause → Prop
  | zero (hzero : '\x00' ∈ path.text.toList) : Refused fs here path .nulInPath
  | long (hzero : '\x00' ∉ path.text.toList) (hlong : pathLimit ≤ path.text.utf8ByteSize) :
      Refused fs here path (.system .nameTooLong)
  | overlong (hends : fs.Ends here path .overlong) : Refused fs here path (.system .nameTooLong)
  | blocked (hends : fs.Ends here path .blocked) : Refused fs here path (.system .notDirectory)
  | tangled (htangled : fs.Tangled here path) : Refused fs here path (.system .linkLoop)

/-- What is found at a path, and where. -/
def found (fs : FileSystem) (here : Location) (path : Path) : Except Cause (Location × Node) :=
  match fs.resolve here path with
  | .ok (.taken location node) => .ok (location, node)
  | .ok (.free _) => .error (.system .noEntry)
  | .error cause => .error cause

theorem stat_eq_found : fs.stat here path = (fs.found here path).map Prod.snd := by
  unfold stat found
  rcases fs.resolve here path with cause | (⟨location, node⟩ | location) <;> rfl

theorem list_eq_found : fs.list here path = match fs.found here path with
    | .ok (location, .directory) => .ok (fs.children location)
    | .ok _ => .error (.system .notDirectory)
    | .error cause => .error cause := by
  unfold list found
  rcases fs.resolve here path with cause | (⟨location, _ | _ | _⟩ | location) <;> rfl

/-- At a path that is looked at, what the walk finds is found. -/
theorem found_of_admissible (hpath : Admissible path) : fs.found here path =
    (foundBy (fs.walk .find linkLimit (origin here path) path.steps)).mapError .system := by
  rw [found, resolve_of_admissible .find hpath]
  rcases fs.walk .find linkLimit (origin here path) path.steps with
    errno | (⟨location, node⟩ | location) <;> rfl

theorem Ends.found {stop : Stop} (hends : fs.Ends here path stop) :
    fs.found here path = stop.found.mapError .system := by
  rw [found_of_admissible hends.1, hends.2.walk]

theorem Ends.resolve (hends : fs.Ends here path (.directory location)) :
    fs.resolve here path = .ok (.taken location .directory) := by
  have hfound := hends.found
  unfold FileSystem.found at hfound
  rcases hresolve : fs.resolve here path with cause | (⟨other, node⟩ | other) <;>
    rw [hresolve] at hfound
  · cases hfound
  · obtain ⟨rfl, rfl⟩ := Prod.mk.inj (Except.ok.inj hfound)
    rfl
  · cases hfound

theorem Absent.found (habsent : fs.Absent here path) :
    fs.found here path = .error (.system .noEntry) := by
  rcases habsent with hempty | hends
  · simp [FileSystem.found, resolve, hempty]
  · exact hends.found

theorem Refused.found {cause : Cause} (hrefused : fs.Refused here path cause) :
    fs.found here path = .error cause := by
  cases hrefused with
  | zero hzero => simp [FileSystem.found, resolve, hzero]
  | long hzero hlong =>
    have hnonempty : path.text ≠ "" := by
      intro hempty
      rw [hempty] at hlong
      exact absurd hlong (by decide)
    simp [FileSystem.found, resolve, hzero, hnonempty, hlong]
  | overlong hends => exact hends.found
  | blocked hends => exact hends.found
  | tangled htangled =>
    obtain ⟨hpath, there, left, hway⟩ := htangled
    rw [found_of_admissible hpath, hway.walk_loop (Nat.lt_succ_self _)]
    rfl

theorem Refused.ne_noEntry {cause : Cause} (hrefused : fs.Refused here path cause) :
    cause ≠ .system .noEntry := by
  cases hrefused <;> decide

/-- Every path leads to a directory or a file, or to nothing, or is refused. -/
theorem path_cases (fs : FileSystem) (here : Location) (path : Path) :
    (∃ location, fs.Ends here path (.directory location)) ∨
    (∃ location file, fs.Ends here path (.file location file)) ∨
    fs.Absent here path ∨ ∃ cause, fs.Refused here path cause := by
  by_cases hzero : '\x00' ∈ path.text.toList
  · exact Or.inr (Or.inr (Or.inr ⟨_, .zero hzero⟩))
  by_cases hempty : path.text = ""
  · exact Or.inr (Or.inr (Or.inl (Or.inl hempty)))
  by_cases hlong : pathLimit ≤ path.text.utf8ByteSize
  · exact Or.inr (Or.inr (Or.inr ⟨_, .long hzero hlong⟩))
  have hpath : Admissible path := ⟨hzero, hempty, Nat.lt_of_not_le hlong⟩
  rcases fs.exists_stop linkLimit (origin here path) path.steps with
    ⟨stop, hstop⟩ | hlater
  · have hends : fs.Ends here path stop := ⟨hpath, hstop⟩
    cases stop with
    | directory location => exact Or.inl ⟨location, hends⟩
    | file location file => exact Or.inr (Or.inl ⟨location, file, hends⟩)
    | missing => exact Or.inr (Or.inr (Or.inl (Or.inr hends)))
    | blocked => exact Or.inr (Or.inr (Or.inr ⟨_, .blocked hends⟩))
    | overlong => exact Or.inr (Or.inr (Or.inr ⟨_, .overlong hends⟩))
  · exact Or.inr (Or.inr (Or.inr ⟨_, .tangled ⟨hpath, hlater⟩⟩))

/-- A directory is found only where a path leads to it. -/
theorem found_eq_directory : fs.found here path = .ok (location, .directory) ↔
    fs.Ends here path (.directory location) := by
  refine ⟨fun hfound => ?_, fun hends => hends.found⟩
  rcases fs.path_cases here path with ⟨other, h⟩ | ⟨other, file, h⟩ | h | ⟨cause, h⟩ <;>
    rw [h.found] at hfound
  · obtain ⟨rfl, -⟩ := Prod.mk.inj (Except.ok.inj hfound)
    exact h
  all_goals cases hfound

/-- The answer that nothing is there is given only of a path that fails for it. -/
theorem found_eq_noEntry : fs.found here path = .error (.system .noEntry) ↔
    fs.Absent here path := by
  refine ⟨fun hfound => ?_, fun habsent => habsent.found⟩
  rcases fs.path_cases here path with ⟨other, h⟩ | ⟨other, file, h⟩ | h | ⟨cause, h⟩ <;>
    rw [h.found] at hfound
  · cases hfound
  · cases hfound
  · exact h
  · exact absurd (Except.error.inj hfound) h.ne_noEntry

/-! ## §5 Links that lead to nothing or in a circle -/

/-- A way that stops does so from every point before. -/
theorem Reaches.stopsWithin {stop : Stop} (hway : fs.Reaches links here steps there left)
    (hstop : fs.StopsWithin more there left stop) :
    fs.StopsWithin (links + more) here steps stop := by
  obtain ⟨fewer, last, rest, hfewer, hlater, hstop⟩ := hstop
  exact ⟨links + fewer, last, rest, Nat.add_le_add_left hfewer links, hway.trans hlater, hstop⟩

/-- Whether a path ends at a link whose target does not exist. -/
def Dangles (fs : FileSystem) (here : Location) (path : Path) : Prop :=
  Admissible path ∧ ∃ links more there name target, links + (1 + more) ≤ linkLimit ∧
    fs.Reaches links (origin here path) path.steps there [.into name] ∧
    name.size ≤ nameLimit ∧ fs.node? (name :: there) = some (.link target) ∧
    fs.StopsWithin more (originOfBytes there target) (Path.stepsOfBytes target) .missing

/-- A path that ends at such a link ends where nothing is. -/
theorem Dangles.ends (hdangles : fs.Dangles here path) : fs.Ends here path .missing := by
  obtain ⟨hpath, links, more, there, name, target, hlimit, hway, hsize, hnode, htarget⟩ := hdangles
  have hfollow : fs.Reaches 1 there [.into name] (originOfBytes there target)
      (Path.stepsOfBytes target) :=
    .follow hsize hnode (by simpa using Reaches.refl)
  obtain ⟨fewer, last, rest, hfewer, hreaches, hstop⟩ :=
    hway.stopsWithin (hfollow.stopsWithin htarget)
  exact ⟨hpath, fewer, last, rest, Nat.le_trans hfewer hlimit, hreaches, hstop⟩

/-- Whether the way of a path comes to a point from which it comes back to that point through at
least one link, with the steps it had left and maybe more. -/
def Circles (fs : FileSystem) (here : Location) (path : Path) : Prop :=
  ∃ links there left more back, fs.Reaches links (origin here path) path.steps there left ∧
    0 < back ∧ fs.Reaches back there left there (left ++ more)

/-- A way that comes back goes round any number of times. -/
theorem Reaches.round {back : Nat} {more : List Step}
    (hback : fs.Reaches back there left there (left ++ more)) (times : Nat) :
    ∃ more, fs.Reaches (back * times) there left there (left ++ more) := by
  induction times with
  | zero => exact ⟨[], by simpa using Reaches.refl⟩
  | succ times ih =>
    obtain ⟨further, hround⟩ := ih
    refine ⟨more ++ further, ?_⟩
    rw [← List.append_assoc, Nat.mul_succ]
    exact hround.trans (hback.append further)

/-- A path that leads in a circle is tangled. -/
theorem Circles.tangled (hcircles : fs.Circles here path) (hpath : Admissible path) :
    fs.Tangled here path := by
  obtain ⟨links, there, left, more, back, hway, hpos, hback⟩ := hcircles
  obtain ⟨further, hround⟩ := hback.round (linkLimit + 1)
  have hmany : linkLimit + 1 ≤ links + back * (linkLimit + 1) :=
    Nat.le_trans (Nat.le_mul_of_pos_left _ hpos) (Nat.le_add_left _ _)
  exact ⟨hpath, (hway.trans hround).cut hmany⟩

/-- A path that leads in a circle is refused. -/
theorem Circles.refused (hcircles : fs.Circles here path) (hpath : path.text ≠ "") :
    ∃ cause, fs.Refused here path cause := by
  by_cases hzero : '\x00' ∈ path.text.toList
  · exact ⟨_, .zero hzero⟩
  by_cases hlong : pathLimit ≤ path.text.utf8ByteSize
  · exact ⟨_, .long hzero hlong⟩
  · exact ⟨_, .tangled (hcircles.tangled ⟨hzero, hpath, Nat.lt_of_not_le hlong⟩)⟩

end Exemplar.FileSystem
