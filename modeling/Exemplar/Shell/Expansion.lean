/-
Exemplar.Shell.Expansion — from words to fields.

The pieces of a word are expanded one after the other. What is not quoted in the end is cut into
fields and read as patterns for the names of files. `Role` says what a word is expanded for, and so
which of this is done. The commands in a word are run by `run`, which gives what they write.

  §1 roles
  §2 tildes
  §3 values of parameters
  §4 pieces
  §5 names of files
  §6 words
-/
import Exemplar.Shell.Arithmetic
import Exemplar.Shell.State
import Exemplar.Shell.Trim
import Exemplar.Users

namespace Exemplar.Shell

/-! ## §1 Roles -/

/-- What a word is expanded for. -/
structure Role where
  /-- It becomes fields. -/
  full : Bool := false
  /-- It is a pattern. -/
  pattern : Bool := false
  /-- A tilde at its start stands for a directory. -/
  tilde : Bool := false
  /-- It is an assignment: a tilde may also follow on `=` and `:`. -/
  assignment : Bool := false
  quoted : Bool := false
  /-- It is the word of an operator on a parameter. -/
  operand : Bool := false

/-- For the arguments of a command. -/
def Role.argument : Role := { full := true, tilde := true }

/-- For an assignment. -/
def Role.assign : Role := { assignment := true }

/-- For a text that stays whole. -/
def Role.whole : Role := { tilde := true }

/-- For a pattern that texts are compared with. -/
def Role.compared : Role := { tilde := true, pattern := true }

/-! ## §2 Tildes -/

/-- The directory of a user, without a name that of the one whose script it is. -/
def homeOf? (s : State) (user : String) : Option String :=
  if user = "" then s.valueOf? "HOME" else User.homeOf? user

/-- The directory that a tilde stands for, given the characters after it, and how many of them name
its user; `isLast` says whether nothing of the word comes after the characters. -/
def tilde? (home : String → Option String) (assignment isLast : Bool) (cs : List Char) :
    Option (String × Nat) :=
  let user := cs.takeWhile fun c => c ≠ '/' && !(assignment && c = ':')
  if isLast || user.length < cs.length then (home (String.ofList user)).map (·, user.length)
  else none

/-- Adds characters, with tildes replaced by what they stand for, which is quoted. A tilde counts
where `atStart`; the first `skip` characters are left out. -/
def pushReplaced (home : String → Option String) (assignment isLast : Bool) :
    (skip : Nat) → (atStart sawEquals : Bool) → List Char → Array Cell → Array Cell
  | _, _, _, [], cells => cells
  | skip + 1, atStart, sawEquals, _ :: cs, cells =>
    pushReplaced home assignment isLast skip atStart sawEquals cs cells
  | 0, atStart, sawEquals, c :: cs, cells =>
    match if c = '~' && atStart then tilde? home assignment isLast cs else none with
    | some (dir, skip) =>
      let cells := dir.toList.foldl (fun cells c => cells.push (.char c true)) cells
      pushReplaced home assignment isLast skip false sawEquals cs cells
    | none =>
      let opens := assignment && (c = ':' || (c = '=' && !sawEquals))
      pushReplaced home assignment isLast 0 opens (sawEquals || c = '=') cs
        (cells.push (.char c false))

/-! ## §3 Values of parameters -/

/-- The separators of fields. -/
def State.separators (s : State) : List Char :=
  match s.valueOf? "IFS" with
  | some separators => separators.toList
  | none => blanks

/-- What stands between the parameters when all of them are asked for: none if nothing. -/
def between (s : State) (role : Role) (isAt : Bool) : Option Char :=
  if role.full && (isAt || !role.quoted) then
    if role.quoted || (s.valueOf? "IFS").isSome then some '\x00' else some ' '
  else match s.valueOf? "IFS" with
    | none => some ' '
    | some separators => separators.toList.head?

/-- The value of a parameter, by its name; none if it is not set. -/
def parameter? (s : State) (role : Role) (name : String) : Option (List Char) :=
  let number (n : Nat) : Option (List Char) := some (toString n).toList
  match name with
  | "$" => number s.rootPid
  | "?" => number s.status
  | "#" => number s.params.length
  | "!" => s.lastBackground.bind number
  | "-" => some s.optionText.toList
  | "@" | "*" =>
    let params := s.params.map String.toList
    match between s role (name = "@") with
    | some c => some ([c].intercalate params)
    | none => some params.flatten
  | _ =>
    match name.toNat? with
    | some 0 => some s.name.toList
    | some n => s.params[n - 1]?.map String.toList
    | none => (s.valueOf? name).map String.toList

/-! ## §4 Pieces -/

/-- Gives up at a parameter that is not set. -/
def refuseUnset {α : Type} (name message : String) : Act α := fail (name ++ ": " ++ message)

/-- The value of the arithmetic expression that a text is. -/
def calculate (expr : String) : Act Int := do
  let s ← get
  let (result, assigned) := Arithmetic.run s.valueOf? expr
  for (name, n) in assigned do assign name (toString n)
  match result with
  | .ok value => return value
  | .error (.expression message) =>
    fail ("arithmetic expression: " ++ message ++ ": \"" ++ expr ++ "\"")
  | .error (.illegalNumber text) => fail ("Illegal number: " ++ text)
  | .error .overflow => task (Task.finish (.signalled .arithmetic))

/-- Expands a parameter; `inner` expands the words in it. -/
def expandParam (inner : Role → Word → Expanded → Act Expanded) (role : Role) (name : String)
    (op : Operator) (colon : Bool) (word : Word) (e : Expanded) : Act Expanded := do
  if op = .unknown then fail "Bad substitution"
  let s ← get
  -- Where the value itself does not count, all parameters are one text.
  let isCounted := op = .length || op = .ifSet
  let value? := parameter? s { role with full := role.full && !isCounted } name
  let isSet := match value? with
    | none => false
    | some value => !colon || !value.isEmpty
  let start := e.cells.size
  -- Notes that what was added can be cut.
  let noted (e : Expanded) : Expanded :=
    if !role.quoted then e.note start
    else if name = "@" && !s.params.isEmpty then e.note start true
    else e
  let added (value : List Char) : Expanded := noted (e.push value role.quoted)
  let operandRole : Role := { role with tilde := true, operand := true }
  let careful : Act Unit := do
    if !isSet && s.has 'u' then refuseUnset name "parameter not set"
  match op with
  | .unknown => pure e
  | .value =>
    careful
    match value? with
    | none => pure e
    | some value => pure (added value)
  | .orElse => if isSet then pure (added (value?.getD [])) else inner operandRole word e
  | .ifSet => if isSet then inner operandRole word e else pure (noted e)
  | .orAssign =>
    if isSet then pure (added (value?.getD []))
    else
      let given ← inner .whole word {}
      if !isName name then fail (name ++ ": bad variable name")
      assign name (plainText given.cells.toList)
      match parameter? (← get) role name with
      | none => pure e
      | some value => pure (added value)
  | .orComplain =>
    if isSet then pure (added (value?.getD []))
    else
      let given ← inner .whole word {}
      let message := if word.isEmpty then
          "parameter not set" ++ (if colon then " or null" else "")
        else plainText given.cells.toList
      refuseUnset name message
  | .length =>
    careful
    pure (added (toString ((value?.map List.length).getD 0)).toList)
  | .dropEnd longest =>
    careful
    match value? with
    | none => pure e
    | some value =>
      let given ← inner .compared word {}
      let kept := match Trim.end? role.quoted longest given.cells.toList value with
        | some n => value.take n
        | none => value
      pure (added kept)
  | .dropStart longest =>
    careful
    match value? with
    | none => pure e
    | some value =>
      let given ← inner .compared word {}
      let kept := match Trim.start? role.quoted longest given.cells.toList value with
        | some n => value.drop n
        | none => value
      pure (added kept)

/-- Notes that the cells from `start` on can be cut, which come from a word as it was written:
characters that could be taken for signs stand for themselves, and no field ends at them. -/
def noteWritten (start : Nat) (e : Expanded) : Expanded :=
  let add (stretches : Array Stretch) (start stop : Nat) : Array Stretch :=
    if start < stop then stretches.push ⟨start, stop, false⟩ else stretches
  let size := e.cells.size
  let (stretches, start) := (List.range' start (size - start)).foldl
    (fun (stretches, start) i =>
      match e.cells[i]? with
      | some (.char c _) =>
        if isSign c then (add stretches start i, i + 1) else (stretches, start)
      | _ => (stretches, start)) (e.stretches, start)
  { e with stretches := add stretches start size }

/-- Expands the pieces of a word, one after the other; `quoted` says whether a quotation mark is
open, and `isFirst` whether the word starts here. -/
def expandPieces (run : Option Cmd → Act String)
    (inner : Role → Word → Expanded → Act Expanded) (role : Role) :
    (quoted isFirst : Bool) → Word → Expanded → Act Expanded
  | _, _, [], e => pure e
  | false, _, .mark :: .param "@" .value false [] :: .mark :: rest, e => do
    let e ← expandParam inner { role with quoted := true } "@" .value false [] e
    expandPieces run inner role false false rest e
  | quoted, _, .mark :: rest, e =>
    expandPieces run inner role (!quoted) false rest { e with cells := e.cells.push .mark }
  | quoted, isFirst, .text s isQuoted :: rest, e => do
    let state ← get
    let start := e.cells.size
    let e := if isQuoted then e.push s.toList true
      else
        let cells := pushReplaced (homeOf? state) role.assignment rest.isEmpty 0
          (role.tilde && isFirst) (!isFirst) s.toList e.cells
        { e with cells }
    let isWritten := role.operand && !role.quoted && !quoted && !isQuoted
    let e := if isWritten then noteWritten start e else e
    expandPieces run inner role quoted false rest e
  | quoted, _, .param name op colon word :: rest, e => do
    let e ← expandParam inner { role with quoted := role.quoted || quoted } name op colon word e
    expandPieces run inner role quoted false rest e
  | quoted, _, .output cmd :: rest, e => do
    let text ← run cmd
    let kept := ((text.toList.reverse.dropWhile (· = '\n')).reverse).filter (· ≠ '\x00')
    let isQuoted := role.quoted || quoted
    let start := e.cells.size
    let e := e.push kept isQuoted
    expandPieces run inner role quoted false rest (if isQuoted then e else e.note start)
  | quoted, _, .number expr :: rest, e => do
    let text := plainText (← inner {} expr {}).cells.toList
    let keepsSigns := !role.full && !role.pattern
    let value ← calculate (if keepsSigns then text else String.ofList (withoutSigns text.toList))
    let isQuoted := role.quoted || quoted
    let start := e.cells.size
    let e := e.push (toString value).toList isQuoted
    expandPieces run inner role quoted false rest (if isQuoted then e else e.note start)

/-- Expands a word in which others stand at most so deep. -/
def expandTo (run : Option Cmd → Act String) :
    (depth : Nat) → Role → Word → Expanded → Act Expanded
  | 0, _, _, e => pure e
  | depth + 1, role, word, e =>
    expandPieces run (expandTo run depth) role false true word e

/-- How deep words may stand in each other. -/
def wordDepth : Nat := 100000

/-- Expands a word. -/
def expand (run : Option Cmd → Act String) (role : Role) (word : Word) : Act Expanded :=
  expandTo run wordDepth role word {}

/-! ## §5 Names of files -/

/-- Whether characters write a pattern that is more than a text. -/
def isPattern (cs : List Marked) : Bool :=
  (glob cs).any fun
    | .char _ => false
    | _ => true

/-- The parts of a path between slashes. -/
def pathParts (cs : List Marked) : List (List Marked) :=
  cs.foldr (fun c parts =>
    if c.1 = '/' then [] :: parts
    else match parts with
      | part :: rest => (c :: part) :: rest
      | [] => [[c]]) [[]]

/-- The names in a directory, with those that stand for itself and the one above it; none if it
cannot be read. -/
def namesIn (dir : String) : Act (List String) :=
  task (Task.view fun pid k =>
    if (k.nextNumber? pid).isNone then []
    else match k.stat pid (if dir = "" then "." else dir) with
      | .ok (location, .directory) => "." :: ".." :: (k.files.children location).map Kernel.octets
      | _ => [])

/-- Whether something stands at a path. -/
def stands (path : String) : Act Bool := do
  match ← task (Task.lstat path) with
  | .ok _ => return true
  | .error _ => return false

/-- The paths that start with `dir` and go on as parts of a pattern say. -/
def pathsFrom : List (List Marked) → (dir : String) → (matched : Bool) → Act (List String)
  | [], _, _ => return []
  | part :: rest, dir, matched => do
    let text := String.ofList (part.map Prod.fst)
    if isPattern part then
      let names := (← namesIn dir).filter fun name =>
        (name.front ≠ '.' || text.front = '.') && globMatch (glob part) name.toList
      if rest.isEmpty then return names.map (dir ++ ·)
      else return (← names.mapM fun name => pathsFrom rest (dir ++ name ++ "/") true).flatten
    else if rest.isEmpty then
      if matched && (← stands (dir ++ text)) then return [dir ++ text] else return []
    else pathsFrom rest (dir ++ text ++ "/") matched

/-- The fields that a field stands for: the paths that match it, or else its own text. -/
def pathsOf (cells : List Cell) : Act (List String) := do
  let text := plainText cells
  let mayMatch := cells.any fun
    | .char c quoted => !quoted && (c = '*' || c = '?' || c = '[')
    | .mark => false
  if (← get).has 'f' || !mayMatch then return [text]
  let found ← pathsFrom (pathParts (patternChars cells)) "" false
  if found.isEmpty then return [text] else return found.mergeSort fun a b => a ≤ b

/-! ## §6 Words -/

/-- The fields that a word expands to. -/
def expandFields (run : Option Cmd → Act String) (word : Word) : Act (List String) := do
  let e ← expand run .argument word
  let fields := fieldsOf (← get).separators e
  return (← fields.mapM pathsOf).flatten

/-- The text that a word expands to as a whole. -/
def expandText (run : Option Cmd → Act String) (role : Role) (word : Word) : Act String := do
  let e ← expand run role word
  return plainText e.cells.toList

/-- The pattern that a word expands to. -/
def expandPattern (run : Option Cmd → Act String) (word : Word) : Act (List Glob) := do
  let e ← expand run .compared word
  return glob (patternChars e.cells.toList)

end Exemplar.Shell
