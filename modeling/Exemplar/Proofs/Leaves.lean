/-
Exemplar.Proofs.Leaves — file systems that differ in their leaves.

A leaf of a file system is a location with a regular file or with nothing. Two file systems without
links may differ in leaves only. A path then leads to the same in both, or it ends at a leaf in
both, or a leaf that is a file in one and nothing in the other blocks it before its end. So what is
read and written along a path depends on the content of its last location, and on whether something
stands at the locations before that.

  §1 leaves
  §2 walks
  §3 paths
  §4 contents
  §5 reading and writing
-/
import Exemplar.Example
import Exemplar.Proofs.Walk

namespace Exemplar

namespace FileSystem

variable {fs fs' : FileSystem} {aim : Aim} {links : Nat} {here : Location}

/-! ## §1 Leaves -/

/-- Whether nothing or a regular file stands at a location. -/
def Leaf (fs : FileSystem) (location : Location) : Prop :=
  fs.node? location = none ∨ ∃ file, fs.node? location = some (.file file)

/-- The place at which a walk ends that comes to a leaf. -/
def placeAt (fs : FileSystem) (location : Location) : Place :=
  match fs.node? location with
  | none => .free location
  | some node => .taken location node

/-- Whether two file systems show the same at the locations of some kind, but for leaves. -/
def LeafwiseOn (P : Location → Prop) (fs fs' : FileSystem) : Prop :=
  ∀ location, P location →
    fs.node? location = fs'.node? location ∨ (fs.Leaf location ∧ fs'.Leaf location)

theorem LeafwiseOn.mono {P Q : Location → Prop} (h : LeafwiseOn P fs fs')
    (hsub : ∀ location, Q location → P location) : LeafwiseOn Q fs fs' :=
  fun location hl => h location (hsub location hl)

/-- A file that is put is a leaf, and the other leaves stay. -/
theorem Leaf.put {location other : Location} {file : File} (h : fs.Leaf other) :
    (fs.put location (.file file)).Leaf other := by
  cases other with
  | nil => simp [Leaf, node?] at h
  | cons name parent =>
    rw [Leaf, node?_put _ _ _ (by simp)]
    split
    · exact Or.inr ⟨file, rfl⟩
    · exact h

/-- What is put changes nothing at other locations. -/
theorem node?_put_of_ne {location other : Location} {node : Node} (hother : other ≠ location) :
    (fs.put location node).node? other = fs.node? other := by
  cases other with
  | nil => rfl
  | cons name parent => rw [node?_put _ _ _ (by simp), if_neg hother]

/-- A leaf is no directory. -/
theorem Leaf.ne_directory {location : Location} (h : fs.Leaf location) :
    fs.node? location ≠ some .directory := by
  rcases h with hnone | ⟨file, hfile⟩
  · simp [hnone]
  · simp [hfile]

/-- What differs in leaves from a file system without links has none. -/
theorem LeafwiseOn.linkFree (h : LeafwiseOn (fun _ => True) fs fs') (hlinks : fs.LinkFree) :
    fs'.LinkFree := by
  intro location target hnode
  rcases h location trivial with hsame | ⟨-, hnone | ⟨file, hfile⟩⟩
  · exact hlinks location target (hsame.trans hnode)
  · simp [hnone] at hnode
  · simp [hfile] at hnode

/-! ## §2 Walks -/

/-- A walk that comes to a leaf ends there, or fails if there are steps left. -/
theorem walk_leaf {name : Name} {rest : List Step}
    (hslash : ¬ (aim = .make && endsInSlash rest) = true) (hsize : ¬ nameLimit < name.size)
    (hleaf : fs.Leaf (name :: here)) :
    fs.walk aim links here (.into name :: rest) =
      if rest.isEmpty then .ok (fs.placeAt (name :: here))
      else .error (if (fs.node? (name :: here)).isSome then .notDirectory else .noEntry) := by
  rw [walk_into, if_neg hslash, if_neg hsize, placeAt]
  rcases hleaf with hnone | ⟨file, hfile⟩
  · rw [hnone]
    rfl
  · rw [hfile]
    rfl

/-- Walks over locations that differ in leaves come to the same, or end at a leaf, or are both
blocked before the last step by a leaf that only one of the file systems has. -/
theorem walk_leafwise (aim : Aim) (links : Nat) (hlinks : fs.LinkFree) {steps : List Step}
    (hleaves : LeafwiseOn (· ∈ trailOf here steps) fs fs') :
    fs.walk aim links here steps = fs'.walk aim links here steps ∨
    (placeOf here steps ∈ trailOf here steps ∧
      fs.Leaf (placeOf here steps) ∧ fs'.Leaf (placeOf here steps) ∧
      fs.walk aim links here steps = .ok (fs.placeAt (placeOf here steps)) ∧
      fs'.walk aim links here steps = .ok (fs'.placeAt (placeOf here steps))) ∨
    ((∃ location ∈ trailOf here steps.dropLast,
        (fs.node? location).isSome ≠ (fs'.node? location).isSome) ∧
      (∃ errno, fs.walk aim links here steps = .error errno) ∧
      ∃ errno, fs'.walk aim links here steps = .error errno) := by
  induction links, here, steps using walk_induction with
  | nil links here => exact Or.inl (by rw [walk_nil, walk_nil])
  | move links here step rest hstep ih =>
    rw [walk_move _ _ _ _ hstep, walk_move _ _ _ _ hstep]
    rw [trailOf_move here hstep] at hleaves ⊢
    rcases ih hleaves with hsame | hends | ⟨⟨location, hmem, hclash⟩, hfail⟩
    · exact Or.inl hsame
    · exact Or.inr (Or.inl hends)
    · refine Or.inr (Or.inr ⟨⟨location, ?_, hclash⟩, hfail⟩)
      cases rest with
      | nil => cases hmem
      | cons next rest => rwa [List.dropLast_cons_cons, trailOf_move here hstep]
  | into links here name rest ih _ =>
    by_cases hslash : (aim = .make && endsInSlash rest) = true
    · exact Or.inl (by rw [walk_into, walk_into, if_pos hslash, if_pos hslash])
    by_cases hsize : nameLimit < name.size
    · exact Or.inl (by
        rw [walk_into, walk_into, if_neg hslash, if_neg hslash, if_pos hsize, if_pos hsize])
    rcases hleaves (name :: here) List.mem_cons_self with hsame | ⟨hleaf, hleaf'⟩
    · rw [walk_into, walk_into, if_neg hslash, if_neg hsize, if_neg hslash, if_neg hsize, ← hsame]
      rcases hnode : fs.node? (name :: here) with _ | (_ | file | target)
      · exact Or.inl rfl
      · -- only a directory is walked through
        have hrest : LeafwiseOn (· ∈ trailOf (name :: here) rest) fs fs' :=
          hleaves.mono fun location hl => List.mem_cons_of_mem _ hl
        rcases ih hrest with hsame | ⟨hmem, hends⟩ | ⟨⟨location, hmem, hclash⟩, hfail⟩
        · exact Or.inl hsame
        · exact Or.inr (Or.inl ⟨List.mem_cons_of_mem _ hmem, hends⟩)
        · refine Or.inr (Or.inr ⟨⟨location, ?_, hclash⟩, hfail⟩)
          cases rest with
          | nil => cases hmem
          | cons next rest => exact List.mem_cons_of_mem _ hmem
      · exact Or.inl rfl
      · exact absurd hnode (hlinks _ _)
    · rw [walk_leaf hslash hsize hleaf, walk_leaf hslash hsize hleaf']
      cases rest with
      | nil => exact Or.inr (Or.inl ⟨List.mem_cons_self, hleaf, hleaf', rfl, rfl⟩)
      | cons next rest =>
        by_cases hclash : (fs.node? (name :: here)).isSome = (fs'.node? (name :: here)).isSome
        · rw [hclash]
          exact Or.inl rfl
        · exact Or.inr (Or.inr ⟨⟨_, List.mem_cons_self, hclash⟩, ⟨_, rfl⟩, _, rfl⟩)

/-- A walk that ends well goes through directories up to its last step. -/
theorem directory_of_walk (hlinks : fs.LinkFree) {steps : List Step} {place : Place}
    (hwalk : fs.walk aim links here steps = .ok place) :
    ∀ location ∈ trailOf here steps.dropLast, fs.node? location = some .directory := by
  induction links, here, steps using walk_induction with
  | nil links here => simp [trailOf]
  | move links here step rest hstep ih =>
    rw [walk_move _ _ _ _ hstep] at hwalk
    cases rest with
    | nil => simp [trailOf]
    | cons next rest =>
      rw [List.dropLast_cons_cons, trailOf_move here hstep]
      exact ih hwalk
  | into links here name rest ih _ =>
    cases rest with
    | nil => simp [trailOf]
    | cons next rest =>
      rw [walk_into] at hwalk
      split at hwalk
      · cases hwalk
      split at hwalk
      · cases hwalk
      rcases hnode : fs.node? (name :: here) with _ | (_ | file | target) <;>
        rw [hnode] at hwalk <;> dsimp only at hwalk
      · cases hwalk
      · intro location hl
        rcases List.mem_cons.mp hl with rfl | hlater
        · exact hnode
        · exact ih hwalk location hlater
      · cases hwalk
      · exact absurd hnode (hlinks _ _)

/-- Without links a walk ends where its steps lead. -/
theorem walk_place (hlinks : fs.LinkFree) {steps : List Step} {place : Place}
    (hwalk : fs.walk aim links here steps = .ok place) :
    place = .free (placeOf here steps) ∨ ∃ node, place = .taken (placeOf here steps) node := by
  induction links, here, steps using walk_induction with
  | nil links here =>
    rw [walk_nil] at hwalk
    exact Or.inr ⟨.directory, (Except.ok.inj hwalk).symm⟩
  | move links here step rest hstep ih =>
    rw [walk_move _ _ _ _ hstep] at hwalk
    exact ih hwalk
  | into links here name rest ih _ =>
    rw [walk_into] at hwalk
    split at hwalk
    · cases hwalk
    split at hwalk
    · cases hwalk
    rcases hnode : fs.node? (name :: here) with _ | (_ | file | target) <;> rw [hnode] at hwalk <;>
      dsimp only at hwalk
    · split at hwalk
      · rename_i hrest
        rw [List.isEmpty_iff.mp hrest]
        exact Or.inl (Except.ok.inj hwalk).symm
      · cases hwalk
    · exact ih hwalk
    · split at hwalk
      · rename_i hrest
        rw [List.isEmpty_iff.mp hrest]
        exact Or.inr ⟨_, (Except.ok.inj hwalk).symm⟩
      · cases hwalk
    · exact absurd hnode (hlinks _ _)

end FileSystem

/-! ## §3 Paths -/

namespace Path

variable {here : Location}

/-- The locations that a path enters before its last part. -/
def approach (here : Location) (path : Path) : List Location :=
  trailOf (FileSystem.origin here path) path.steps.dropLast

theorem approach_subset {path : Path} {location : Location} (hl : location ∈ path.approach here) :
    location ∈ path.trail here := by
  unfold approach at hl
  unfold trail
  by_cases hsteps : path.steps = []
  · simpa [hsteps] using hl
  · rw [← List.dropLast_concat_getLast hsteps, trailOf_append]
    exact List.mem_append_left _ hl

/-- Below a path, the whole of the path comes before a last part that is one component. -/
theorem approach_join {path : Path} {name : String} (hname : isComponent name = true) :
    (path / name).approach here = path.trail here := by
  have hhead := head_component hname
  obtain ⟨front, tail, hsteps, htail, hjoined⟩ := steps_join path hhead
  have hslash : ∀ start, trailOf start tail = [] := by
    rcases htail with rfl | rfl <;> simp [trailOf]
  unfold approach trail
  rw [origin_join hhead, hjoined, hsteps, steps_component hname, List.dropLast_concat,
    trailOf_append, hslash, List.append_nil]

/-- Below a path, a last part that is one component is entered last. -/
theorem trail_join_component {path : Path} {name : String} (hname : isComponent name = true) :
    (path / name).trail here = path.trail here ++ [.text name :: path.place here] := by
  rw [trail_join (head_component hname), steps_component hname]
  rfl

theorem place_join_component {path : Path} {name : String} (hname : isComponent name = true) :
    (path / name).place here = .text name :: path.place here := by
  rw [place_join (head_component hname), steps_component hname]
  rfl

end Path

namespace FileSystem

variable {fs fs' : FileSystem} {here : Location} {path : Path}

/-- A path that is not looked at is refused in the same way everywhere. -/
theorem resolve_of_not_admissible (aim : Aim) (hpath : ¬ Admissible path) :
    fs.resolve here path aim = fs'.resolve here path aim := by
  unfold resolve
  by_cases hzero : path.text.toList.contains '\x00' = true
  · rw [if_pos hzero, if_pos hzero]
  by_cases hempty : path.text = ""
  · rw [if_neg hzero, if_pos hempty, if_neg hzero, if_pos hempty]
  by_cases hlong : pathLimit ≤ path.text.utf8ByteSize
  · rw [if_neg hzero, if_neg hempty, if_pos hlong, if_neg hzero, if_neg hempty, if_pos hlong]
  exact absurd ⟨by simpa using hzero, hempty, by omega⟩ hpath

/-- Along locations that differ in leaves a path leads to the same, or ends at a leaf, or is blocked
before its end. -/
theorem resolve_leafwise (aim : Aim) (hlinks : fs.LinkFree)
    (hleaves : LeafwiseOn (· ∈ path.trail here) fs fs') :
    fs.resolve here path aim = fs'.resolve here path aim ∨
    (path.place here ∈ path.trail here ∧ fs.Leaf (path.place here) ∧ fs'.Leaf (path.place here) ∧
      fs.resolve here path aim = .ok (fs.placeAt (path.place here)) ∧
      fs'.resolve here path aim = .ok (fs'.placeAt (path.place here))) ∨
    ((∃ location ∈ path.approach here,
        (fs.node? location).isSome ≠ (fs'.node? location).isSome) ∧
      (∃ cause, fs.resolve here path aim = .error cause) ∧
      ∃ cause, fs'.resolve here path aim = .error cause) := by
  by_cases hadmissible : Admissible path
  · simp only [resolve_of_admissible _ hadmissible]
    rcases walk_leafwise aim linkLimit hlinks hleaves with
      hsame | ⟨hmem, hleaf, hleaf', hwalk, hwalk'⟩ | ⟨hclash, ⟨_, hwalk⟩, _, hwalk'⟩
    · exact Or.inl (by rw [hsame])
    · exact Or.inr (Or.inl ⟨hmem, hleaf, hleaf', by rw [hwalk]; rfl, by rw [hwalk']; rfl⟩)
    · exact Or.inr (Or.inr ⟨hclash, ⟨_, by rw [hwalk]; rfl⟩, _, by rw [hwalk']; rfl⟩)
  · exact Or.inl (resolve_of_not_admissible aim hadmissible)

/-- Along locations that are the same a path leads to the same. -/
theorem resolve_congr (aim : Aim) (hlinks : fs.LinkFree)
    (hsame : ∀ location ∈ path.trail here, fs.node? location = fs'.node? location) :
    fs.resolve here path aim = fs'.resolve here path aim := by
  rcases resolve_leafwise aim hlinks fun location hl => Or.inl (hsame location hl) with
    hequal | ⟨hmem, -, -, hends, hends'⟩ | ⟨⟨location, hmem, hclash⟩, -⟩
  · exact hequal
  · rw [hends, hends', placeAt, placeAt, hsame _ hmem]
  · exact absurd (by rw [hsame location (Path.approach_subset hmem)]) hclash

/-! ## §4 Contents -/

end FileSystem

/-- A node with no more of a file than its content. -/
def Node.content : Node → Node
  | .file f => .file { data := f.data, stamp := .old }
  | node => node

namespace FileSystem

variable {fs fs' : FileSystem} {here : Location} {path : Path}

/-- What a location holds: a directory, a link or the content of a file, rights and times apart. -/
def content (fs : FileSystem) (location : Location) : Option Node :=
  (fs.node? location).map Node.content

/-- Where the contents are the same, both or none of the locations are taken. -/
theorem isSome_of_content {location : Location} (h : fs.content location = fs'.content location) :
    (fs.node? location).isSome = (fs'.node? location).isSome := by
  have := congrArg Option.isSome h
  simpa [content] using this

/-- What holds the same is the same, or two files of the same content. -/
theorem content_eq {location : Location} (h : fs.content location = fs'.content location) :
    fs.node? location = fs'.node? location ∨
      ∃ file file', fs.node? location = some (.file file) ∧
        fs'.node? location = some (.file file') ∧ file.data = file'.data := by
  unfold content at h
  rcases hnode : fs.node? location with _ | (_ | file | target) <;>
    rcases hnode' : fs'.node? location with _ | (_ | file' | target') <;>
    simp_all [Node.content]

/-- What holds the same differs in leaves at most. -/
theorem leafwise_of_content {location : Location}
    (h : fs.content location = fs'.content location) :
    fs.node? location = fs'.node? location ∨ (fs.Leaf location ∧ fs'.Leaf location) := by
  rcases content_eq h with hsame | ⟨file, file', hfile, hfile', -⟩
  · exact Or.inl hsame
  · exact Or.inr ⟨Or.inr ⟨file, hfile⟩, Or.inr ⟨file', hfile'⟩⟩

/-- What is put holds the same at its location, and the rest is as before. -/
theorem content_put {location other : Location} {node node' : Node}
    (hcontent : other ≠ location → fs.content other = fs'.content other)
    (hnode : node.content = node'.content) :
    (fs.put location node).content other = (fs'.put location node').content other := by
  cases other with
  | nil => rfl
  | cons name parent =>
    unfold content at hcontent ⊢
    rw [node?_put _ _ _ (by simp), node?_put _ _ _ (by simp)]
    split
    · simp [hnode]
    · rename_i hother
      exact hcontent hother

theorem content_put_of_ne {location other : Location} {node : Node} (hother : other ≠ location) :
    (fs.put location node).content other = fs.content other := by
  rw [content, node?_put_of_ne hother, content]

/-! ## §5 Reading and writing -/

/-- Whether a path leads to a location that takes a file: there is nothing yet, in a directory, or a
file. -/
def Receives (fs : FileSystem) (here : Location) (path : Path) (location : Location) : Prop :=
  fs.resolve here path = .ok (.free location) ∨
    ∃ file, fs.resolve here path = .ok (.taken location (.file file))

variable {location : Location}

theorem Receives.leaf (h : fs.Receives here path location) : fs.Leaf location := by
  rcases h with hfree | ⟨file, hfile⟩
  · exact Or.inl (seen_of_walk (resolve_eq_ok.mp hfree).2)
  · exact Or.inr ⟨file, seen_of_walk (resolve_eq_ok.mp hfile).2⟩

theorem Receives.place (h : fs.Receives here path location) (hlinks : fs.LinkFree) :
    location = path.place here := by
  rcases h with hresolve | ⟨_, hresolve⟩ <;>
    rcases walk_place hlinks (resolve_eq_ok.mp hresolve).2 with hplace | ⟨_, hplace⟩ <;>
    simp_all [Path.place]

/-- All that is entered on the way is a directory. -/
theorem Receives.directory (h : fs.Receives here path location) (hlinks : fs.LinkFree)
    {entered : Location} (hentered : entered ∈ path.approach here) :
    fs.node? entered = some .directory := by
  rcases h with hresolve | ⟨_, hresolve⟩ <;>
    exact directory_of_walk hlinks (resolve_eq_ok.mp hresolve).2 entered hentered

/-- Where a path leads to the same, the same is read. -/
theorem read_of_resolve (h : fs.resolve here path = fs'.resolve here path) :
    fs.read here path = fs'.read here path := by
  rw [read, stat, h, read, stat]

theorem file?_at {location : Location} (hleaf : fs.Leaf location)
    (hresolve : fs.resolve here path = .ok (fs.placeAt location)) :
    (fs.file? here path).isSome = (fs.node? location).isSome := by
  unfold file? stat
  rw [hresolve, placeAt]
  rcases hleaf with hnone | ⟨file, hfile⟩
  · simp [hnone]
  · simp [hfile]

/-- What is read at a leaf: the content of the file, if there is one. -/
theorem read_at {location : Location} (hleaf : fs.Leaf location)
    (hresolve : fs.resolve here path = .ok (fs.placeAt location)) :
    fs.read here path =
      match fs.content location with
      | some (.file file) => .ok file.data
      | _ => .error (.system .noEntry) := by
  unfold read stat content
  rw [hresolve, placeAt]
  rcases hleaf with hnone | ⟨file, hfile⟩
  · simp [hnone]
  · simp [hfile, Node.content]

section

variable (hlinks : fs.LinkFree) (hleaves : LeafwiseOn (· ∈ path.trail here) fs fs')
include hlinks hleaves

/-- Whether a path leads to a file depends on whether something stands at its end. -/
theorem file?_leafwise (hplace : (fs.node? (path.place here)).isSome =
      (fs'.node? (path.place here)).isSome) :
    (fs.file? here path).isSome = (fs'.file? here path).isSome := by
  rcases resolve_leafwise .find hlinks hleaves with
    hsame | ⟨-, hleaf, hleaf', hends, hends'⟩ | ⟨-, ⟨_, hfail⟩, _, hfail'⟩
  · rw [file?, stat, hsame, file?, stat]
  · rw [file?_at hleaf hends, file?_at hleaf' hends', hplace]
  · rw [file?, stat, hfail, file?, stat, hfail']

/-- What is read at a path that leads to a file depends on the content at its end. -/
theorem read_of_file? (hplace : fs.content (path.place here) = fs'.content (path.place here))
    (hfile : (fs.file? here path).isSome) : fs.read here path = fs'.read here path := by
  rcases resolve_leafwise .find hlinks hleaves with
    hsame | ⟨-, hleaf, hleaf', hends, hends'⟩ | ⟨-, ⟨_, hfail⟩, -⟩
  · exact read_of_resolve hsame
  · rw [read_at hleaf hends, read_at hleaf' hends', hplace]
  · rw [file?, stat, hfail] at hfile
    cases hfile

variable (happroach : ∀ location ∈ path.approach here,
  (fs.node? location).isSome = (fs'.node? location).isSome)
include happroach

/-- What is read at a path that no leaf blocks depends on the content at its end. -/
theorem read_leafwise (hplace : fs.content (path.place here) = fs'.content (path.place here)) :
    fs.read here path = fs'.read here path := by
  rcases resolve_leafwise .find hlinks hleaves with
    hsame | ⟨-, hleaf, hleaf', hends, hends'⟩ | ⟨⟨location, hmem, hclash⟩, -⟩
  · exact read_of_resolve hsame
  · rw [read_at hleaf hends, read_at hleaf' hends', hplace]
  · exact absurd (happroach location hmem) hclash

/-- Writing along a path that no leaf blocks fails in the same way in both file systems, or puts the
same content at a leaf of both. -/
theorem write_leafwise (data : Bytes) :
    (∃ cause, fs.write here path data = .error cause ∧ fs'.write here path data = .error cause) ∨
      ∃ file file', fs.write here path data = .ok (fs.put (path.place here) (.file file)) ∧
        fs'.write here path data = .ok (fs'.put (path.place here) (.file file')) ∧
        file.data = data ∧ file'.data = data := by
  have hputs : ∀ {fs : FileSystem}, fs.Leaf (path.place here) →
      fs.resolve here path .make = .ok (fs.placeAt (path.place here)) →
      ∃ file, fs.write here path data = .ok (fs.put (path.place here) (.file file)) ∧
        file.data = data := by
    intro fs hleaf hends
    unfold write
    rw [hends, placeAt]
    rcases hleaf with hnone | ⟨old, hold⟩
    · rw [hnone]
      exact ⟨_, rfl, rfl⟩
    · rw [hold]
      exact ⟨_, rfl, rfl⟩
  rcases resolve_leafwise .make hlinks hleaves with
    hsame | ⟨-, hleaf, hleaf', hends, hends'⟩ | ⟨⟨location, hmem, hclash⟩, -⟩
  · unfold write
    rw [← hsame]
    cases hresolve : fs.resolve here path .make with
    | error cause => exact Or.inl ⟨cause, rfl, rfl⟩
    | ok place =>
      rcases walk_place hlinks (resolve_eq_ok.mp hresolve).2 with rfl | ⟨node, rfl⟩
      · exact Or.inr ⟨_, _, rfl, rfl, rfl, rfl⟩
      · rcases node with _ | file | target
        · exact Or.inl ⟨_, rfl, rfl⟩
        · exact Or.inr ⟨_, _, rfl, rfl, rfl, rfl⟩
        · exact Or.inl ⟨_, rfl, rfl⟩
  · obtain ⟨file, hwrite, hdata⟩ := hputs hleaf hends
    obtain ⟨file', hwrite', hdata'⟩ := hputs hleaf' hends'
    exact Or.inr ⟨file, file', hwrite, hwrite', hdata, hdata'⟩
  · exact absurd (happroach location hmem) hclash

end

/-- Along locations that are the same and at the same time, the same file is written, or the same
cause hinders it. -/
theorem write_congr (hlinks : fs.LinkFree)
    (hsame : ∀ location ∈ path.trail here, fs.node? location = fs'.node? location)
    (htime : fs.time = fs'.time) (data : Bytes) :
    (∃ cause, fs.write here path data = .error cause ∧ fs'.write here path data = .error cause) ∨
      ∃ file, fs.write here path data = .ok (fs.put (path.place here) (.file file)) ∧
        fs'.write here path data = .ok (fs'.put (path.place here) (.file file)) := by
  have hnow : fs'.now = fs.now := by rw [now, now, htime]
  unfold write
  rw [← resolve_congr .make hlinks hsame, hnow]
  cases hresolve : fs.resolve here path .make with
  | error cause => exact Or.inl ⟨cause, rfl, rfl⟩
  | ok place =>
    rcases walk_place hlinks (resolve_eq_ok.mp hresolve).2 with rfl | ⟨node, rfl⟩
    · exact Or.inr ⟨_, rfl, rfl⟩
    · rcases node with _ | file | target
      · exact Or.inl ⟨_, rfl, rfl⟩
      · exact Or.inr ⟨_, rfl, rfl⟩
      · exact Or.inl ⟨_, rfl, rfl⟩

end FileSystem

end Exemplar
