/-
Exemplar.Proofs.Paths — the steps of joined paths.

A part that is joined to a path adds its own steps to those of the path; at most the slash that ends
the path is lost on the way. A slash is one byte, which no other character has, so the bytes of a
path have the steps of its text. Nothing here looks at files.

  §1 cutting at separators
  §2 the steps of a joined path
  §3 the steps of the bytes of a path
  §4 where paths lead by their text
-/
import Exemplar.FileSystem.Resolve
import Exemplar.Proofs.Utf8

namespace Exemplar

/-! ## §1 Cutting at separators -/

namespace Text

variable {α : Type} [DecidableEq α]

theorem splitList_ne_nil (separator : α) (list : List α) : splitList separator list ≠ [] := by
  induction list with
  | nil => simp [splitList]
  | cons a rest ih =>
    unfold splitList
    split
    · simp
    · split <;> simp

/-- A separator begins a new part, and anything else stands at the front of the first one. -/
theorem splitList_cons (separator a : α) (rest : List α) :
    splitList separator (a :: rest) =
      if a = separator then [] :: splitList separator rest
      else (splitList separator rest).modifyHead (a :: ·) := by
  rw [splitList]
  cases hparts : splitList separator rest with
  | nil => exact absurd hparts (splitList_ne_nil separator rest)
  | cons part parts => rfl

/-- A separator cuts what is before it from what is after it. -/
theorem splitList_append (separator : α) (before after : List α) :
    splitList separator (before ++ separator :: after) =
      splitList separator before ++ splitList separator after := by
  induction before with
  | nil => simp [splitList]
  | cons a before ih =>
    rw [List.cons_append, splitList_cons, splitList_cons, ih]
    split
    · rfl
    · cases hparts : splitList separator before with
      | nil => exact absurd hparts (splitList_ne_nil separator before)
      | cons part parts => rfl

/-- What has no separators goes to the front of the first part. -/
theorem splitList_append_of_not_mem {separator : α} {front : List α} (hfront : separator ∉ front)
    (rest : List α) :
    splitList separator (front ++ rest) = (splitList separator rest).modifyHead (front ++ ·) := by
  induction front with
  | nil =>
    rw [List.nil_append]
    cases splitList separator rest <;> rfl
  | cons a front ih =>
    rw [List.mem_cons, not_or] at hfront
    rw [List.cons_append, splitList_cons, if_neg (Ne.symm hfront.1), ih hfront.2,
      List.modifyHead_modifyHead]
    rfl

/-- A text without separators is one part. -/
theorem splitList_of_not_mem {separator : α} {list : List α} (hlist : separator ∉ list) :
    splitList separator list = [list] := by
  simpa [splitList] using splitList_append_of_not_mem hlist []

/-- The bytes of a text are cut at a character below 0x80 as the text is. -/
theorem splitList_encode {separator : UInt8} (hseparator : separator.toNat < 0x80)
    (cs : List Char) :
    splitList separator (cs.flatMap String.utf8EncodeChar) =
      (splitList (Char.ofNat separator.toNat) cs).map (·.flatMap String.utf8EncodeChar) := by
  induction cs with
  | nil => rfl
  | cons c cs ih =>
    rw [List.flatMap_cons, splitList_cons]
    split
    · rename_i hc
      rw [hc, ← (Utf8.Spells.single hseparator rfl).eq_encodeChar, List.singleton_append,
        splitList_cons, if_pos rfl, ih]
      rfl
    · rename_i hc
      rw [splitList_append_of_not_mem (mt (Utf8.mem_encodeChar hseparator).mp hc), ih]
      cases splitList (Char.ofNat separator.toNat) cs <;> rfl

end Text

/-! ## §2 The steps of a joined path -/

namespace Path

/-- The steps of some characters. -/
def stepsOf (cs : List Char) : List Step :=
  (Text.splitList '/' cs).map fun part => Step.ofName (.text (String.ofList part))

theorem steps_eq (path : Path) : path.steps = stepsOf path.text.toList := by
  simp [steps, stepsOf, Text.split]

/-- A slash between two texts parts their steps. -/
theorem stepsOf_append (before after : List Char) :
    stepsOf (before ++ '/' :: after) = stepsOf before ++ stepsOf after := by
  simp [stepsOf, Text.splitList_append]

/-- The characters of a joined path, the part being relative. -/
theorem toList_join {path : Path} {part : String} (hpart : part.toList.head? ≠ some '/') :
    (path / part).text.toList =
      if path.text.toList = [] ∨ path.text.toList.getLast? = some '/' then
        path.text.toList ++ part.toList
      else path.text.toList ++ '/' :: part.toList := by
  show (String.ofList (joinChars path.text.toList part.toList)).toList = _
  rw [String.toList_ofList, joinChars, if_neg hpart]

/-- A joined path is not empty, unless the part is. -/
theorem join_ne_empty (path : Path) {part : String} (hpart : part ≠ "") :
    (path / part).text ≠ "" := by
  intro hempty
  have hchars : joinChars path.text.toList part.toList = [] := by
    have htext : String.ofList (joinChars path.text.toList part.toList) = "" := hempty
    rw [← String.toList_ofList (l := joinChars _ _), htext]
    rfl
  have hlist : part.toList ≠ [] := by simpa using hpart
  unfold joinChars at hchars
  split at hchars
  · exact hlist hchars
  split at hchars
  · exact hlist (List.append_eq_nil_iff.mp hchars).2
  · simp at hchars

/-- A joined path starts where the path starts. -/
theorem isAbsolute_join {path : Path} {part : String} (hpart : part.toList.head? ≠ some '/') :
    (path / part).isAbsolute = path.isAbsolute := by
  unfold isAbsolute
  rw [toList_join hpart]
  cases hlist : path.text.toList with
  | nil => simpa using hpart
  | cons c cs => split <;> simp

/-- The steps of a joined path are those of the path, less a slash at the end, and then those of the
part. -/
theorem steps_join (path : Path) {part : String} (hpart : part.toList.head? ≠ some '/') :
    ∃ front tail, path.steps = front ++ tail ∧ (tail = [] ∨ tail = [.slash]) ∧
      (path / part).steps = front ++ (Path.mk part).steps := by
  rw [steps_eq, steps_eq, steps_eq, toList_join hpart]
  by_cases hempty : path.text.toList = []
  · rw [hempty]
    exact ⟨[], [.slash], rfl, Or.inr rfl, by simp⟩
  by_cases hslash : path.text.toList.getLast? = some '/'
  · obtain ⟨before, hbefore⟩ := List.getLast?_eq_some_iff.mp hslash
    rw [if_pos (Or.inr hslash)]
    refine ⟨stepsOf before, [.slash], ?_, Or.inr rfl, ?_⟩
    · rw [hbefore, stepsOf_append]
      rfl
    · rw [hbefore, List.append_assoc, List.singleton_append, stepsOf_append]
  · rw [if_neg (not_or.mpr ⟨hempty, hslash⟩)]
    exact ⟨_, [], (List.append_nil _).symm, Or.inl rfl, stepsOf_append _ _⟩

/-- A name that is one component is one step. -/
theorem steps_component {name : String} (hname : isComponent name = true) :
    (Path.mk name).steps = [.into (.text name)] := by
  simp only [isComponent, Bool.and_eq_true, decide_eq_true_eq, Bool.not_eq_true',
    List.contains_eq_mem, decide_eq_false_iff_not, ne_eq] at hname
  obtain ⟨⟨⟨hempty, hslash⟩, hstay⟩, hup⟩ := hname
  rw [steps_eq, stepsOf, Text.splitList_of_not_mem hslash]
  simp [Step.ofName, hempty, hstay, hup]

/-- A component does not start with a slash. -/
theorem head_component {name : String} (hname : isComponent name = true) :
    name.toList.head? ≠ some '/' := by
  simp only [isComponent, Bool.and_eq_true, Bool.not_eq_true', List.contains_eq_mem,
    decide_eq_false_iff_not] at hname
  intro hhead
  exact hname.1.1.2 (List.mem_of_mem_head? hhead)

end Path

/-! ## §3 The steps of the bytes of a path -/

/-- The bytes of a path have its steps. -/
theorem Path.stepsOfBytes_encode (path : Path) :
    stepsOfBytes (Utf8.encode path.text) = path.steps := by
  have hname (part : List Char) :
      Name.ofBytes (part.flatMap String.utf8EncodeChar) = .text (String.ofList part) := by
    have hdecode := Utf8.decode?_encode (String.ofList part)
    rw [Utf8.encode, String.toList_ofList] at hdecode
    rw [Name.ofBytes, hdecode]
  have hparts : Text.splitList slash (path.text.toList.flatMap String.utf8EncodeChar) =
      (Text.splitList '/' path.text.toList).map (·.flatMap String.utf8EncodeChar) :=
    Text.splitList_encode (by decide) _
  rw [stepsOfBytes, Utf8.encode, hparts, steps_eq, stepsOf, List.map_map]
  exact List.map_congr_left fun part _ => congrArg Step.ofName (hname part)

/-- The bytes of a path start where it does. -/
theorem FileSystem.originOfBytes_encode (here : Location) (path : Path) :
    originOfBytes here (Utf8.encode path.text) = origin here path := by
  rw [originOfBytes, origin, Path.isAbsolute, Utf8.encode]
  cases path.text.toList with
  | nil => rfl
  | cons c cs =>
    by_cases hc : c = '/'
    · rw [hc]
      rfl
    · have hslash : ((c :: cs).flatMap String.utf8EncodeChar).head? ≠ some Path.slash := by
        obtain ⟨byte, bytes, hbytes⟩ :=
          List.exists_cons_of_ne_nil (String.utf8EncodeChar_ne_nil (c := c))
        rw [List.flatMap_cons, hbytes, List.cons_append, List.head?_cons]
        intro hhead
        have hmem : Path.slash ∈ String.utf8EncodeChar c := by
          rw [hbytes, ← Option.some.inj hhead]
          exact List.mem_cons_self
        exact hc ((Utf8.mem_encodeChar (by decide)).mp hmem)
      rw [if_neg hslash]
      simp [hc]

/-! ## §4 Where paths lead by their text

Without links, a path leads where its steps lead: down by a name and up by `..`. -/

/-- Where a step leads from a location. -/
def Step.from (location : Location) : Step → Location
  | .slash | .stay => location
  | .up => location.tail
  | .into name => name :: location

/-- Where some steps lead. -/
def placeOf (location : Location) (steps : List Step) : Location :=
  steps.foldl Step.from location

/-- The locations that some steps enter, in order. -/
def trailOf (location : Location) : List Step → List Location
  | [] => []
  | .into name :: rest => (name :: location) :: trailOf (name :: location) rest
  | step :: rest => trailOf (step.from location) rest

/-- A step that is no name enters nothing. -/
theorem trailOf_move (location : Location) {step : Step} (hstep : ∀ name, step ≠ .into name)
    (rest : List Step) :
    trailOf location (step :: rest) = trailOf (step.from location) rest := by
  cases step with
  | into name => exact absurd rfl (hstep name)
  | slash => rfl
  | stay => rfl
  | up => rfl

theorem placeOf_append (location : Location) (front back : List Step) :
    placeOf location (front ++ back) = placeOf (placeOf location front) back :=
  List.foldl_append

theorem trailOf_append (location : Location) (front back : List Step) :
    trailOf location (front ++ back) =
      trailOf location front ++ trailOf (placeOf location front) back := by
  induction front generalizing location with
  | nil => rfl
  | cons step front ih => cases step <;> simp [trailOf, ih, placeOf, Step.from]

/-- Steps none of which goes up stay below where they start. -/
theorem suffix_placeOf (location : Location) {steps : List Step} (hsteps : .up ∉ steps) :
    location <:+ placeOf location steps ∧
      ∀ entered ∈ trailOf location steps, location <:+ entered := by
  induction steps generalizing location with
  | nil => simp [placeOf, trailOf]
  | cons step rest ih =>
    rw [List.mem_cons, not_or] at hsteps
    have hrest (start : Location) : start <:+ placeOf start rest ∧
        ∀ entered ∈ trailOf start rest, start <:+ entered := ih start hsteps.2
    cases step with
    | up => exact absurd rfl hsteps.1
    | slash => exact hrest location
    | stay => exact hrest location
    | into name =>
      have hbelow : location <:+ name :: location := List.suffix_cons name location
      refine ⟨hbelow.trans (hrest (name :: location)).1, ?_⟩
      intro entered hentered
      rcases List.mem_cons.mp hentered with rfl | hlater
      · exact hbelow
      · exact hbelow.trans ((hrest (name :: location)).2 entered hlater)

namespace Path

variable (here : Location)

/-- Where a path leads by its text. -/
def place (path : Path) : Location :=
  placeOf (FileSystem.origin here path) path.steps

/-- The locations that a path enters on its way. -/
def trail (path : Path) : List Location :=
  trailOf (FileSystem.origin here path) path.steps

/-- A part that stays below the path that it is joined to: relative, and without `..`. -/
def Inward (part : String) : Prop :=
  part.toList.head? ≠ some '/' ∧ .up ∉ (Path.mk part).steps

instance (part : String) : Decidable (Inward part) := inferInstanceAs (Decidable (_ ∧ _))

variable {here}

theorem origin_join {path : Path} {part : String} (hpart : part.toList.head? ≠ some '/') :
    FileSystem.origin here (path / part) = FileSystem.origin here path := by
  rw [FileSystem.origin, isAbsolute_join hpart, FileSystem.origin]

theorem place_join {path : Path} {part : String} (hpart : part.toList.head? ≠ some '/') :
    (path / part).place here = placeOf (path.place here) (Path.mk part).steps := by
  obtain ⟨front, tail, hsteps, htail, hjoined⟩ := steps_join path hpart
  unfold place
  rw [origin_join hpart, hjoined, hsteps, placeOf_append, placeOf_append]
  rcases htail with rfl | rfl <;> rfl

theorem trail_join {path : Path} {part : String} (hpart : part.toList.head? ≠ some '/') :
    (path / part).trail here =
      path.trail here ++ trailOf (path.place here) (Path.mk part).steps := by
  obtain ⟨front, tail, hsteps, htail, hjoined⟩ := steps_join path hpart
  unfold trail place
  rw [origin_join hpart, hjoined, hsteps, trailOf_append, trailOf_append, placeOf_append]
  rcases htail with rfl | rfl <;> simp [trailOf, placeOf, Step.from]

/-- A component stays below. -/
theorem inward_component {name : String} (hname : isComponent name = true) : Inward name := by
  refine ⟨head_component hname, ?_⟩
  rw [steps_component hname]
  simp

/-- A component that is made longer is one still. -/
theorem isComponent_append {name ending : String} (hname : isComponent name = true)
    (hslash : '/' ∉ ending.toList) (hlong : 2 < ending.length) :
    isComponent (name ++ ending) = true := by
  have hsize : ∀ text : String, text.length ≤ 2 → name ++ ending ≠ text := by
    rintro text htext rfl
    rw [String.length_append] at htext
    omega
  simp only [isComponent, Bool.and_eq_true, Bool.not_eq_true', List.contains_eq_mem,
    decide_eq_false_iff_not] at hname
  simp only [isComponent, Bool.and_eq_true, decide_eq_true_eq, Bool.not_eq_true',
    List.contains_eq_mem, decide_eq_false_iff_not, ne_eq]
  refine ⟨⟨⟨hsize "" (by decide), ?_⟩, hsize "." (by decide)⟩, hsize ".." (by decide)⟩
  rw [String.toList_append, List.mem_append, not_or]
  exact ⟨hname.1.1.2, hslash⟩

end Path

end Exemplar
