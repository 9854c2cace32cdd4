/-
Exemplar.Utility.Translate — replacing, deleting and squeezing bytes: `tr`.

A set is written as characters, ranges, classes and repetitions. In replacing, the members of the
first set go to those of the second one in order, the last of which is repeated as often as needed;
two classes of letters that stand side by side change upper to lower case or back.

  §1 sets
  §2 reading a set
  §3 checking two sets
  §4 tables
  §5 the utility
-/
import Exemplar.Utility.Basic

namespace Exemplar.Utility.Translate

/-! ## §1 Sets -/

/-- One part of a set. -/
inductive Element where
  | char (c : Char)
  | range (first last : Char)
  | named (name : String)
  | alike (c : Char)
  /-- A character so many times; as often as needed if there is no number. -/
  | repeated (c : Char) (count : Option Nat)
  deriving DecidableEq, Repr

/-- Whether a byte can be printed. -/
def isVisible (c : Char) : Bool := ' ' ≤ c && c ≤ '~'

/-- All bytes. -/
def allChars : List Char := (List.range 256).map Char.ofNat

/-- Whether a character is in a class, given by its name; none if there is no such class. -/
def classOf? (name : String) : Option (Char → Bool) :=
  let isPunct (c : Char) : Bool := isVisible c && c ≠ ' ' && !c.isAlphanum
  match name with
  | "alnum" => some Char.isAlphanum
  | "alpha" => some Char.isAlpha
  | "blank" => some fun c => c = ' ' || c = '\t'
  | "cntrl" => some fun c => c < ' ' || c = '\x7f'
  | "digit" => some Char.isDigit
  | "graph" => some fun c => isVisible c && c ≠ ' '
  | "lower" => some Char.isLower
  | "print" => some isVisible
  | "punct" => some isPunct
  | "space" => some Number.isSpace
  | "upper" => some Char.isUpper
  | "xdigit" => some fun c => Number.digitValue c < 16
  | _ => none

/-- Whether a part is one of the two classes that differ in case. -/
def Element.isCase : Element → Bool
  | .named name => name = "upper" || name = "lower"
  | _ => false

/-- Whether a part is a class. -/
def Element.isNamed : Element → Bool
  | .named _ => true
  | _ => false

/-- The members that a part stands for, in order; of those that are the same not more than `most`.
-/
def Element.members (most : Nat) : Element → List Char
  | .char c => [c]
  | .range first last =>
    (List.range (last.toNat + 1 - first.toNat)).map fun n => Char.ofNat (first.toNat + n)
  | .named name => allChars.filter ((classOf? name).getD fun _ => false)
  | .alike c => [c]
  | .repeated c count => List.replicate (min most (count.getD 0)) c

/-- How many members a part stands for. -/
def Element.size : Element → Nat
  | .repeated _ count => count.getD 0
  | e => (e.members 1).length

/-- The members of a set, in order; of those that one part repeats not more than `most`. -/
def membersOf (most : Nat) (set : List Element) : List Char := set.flatMap (Element.members most)

/-- How many members a set has. -/
def lengthOf (set : List Element) : Nat := (set.map Element.size).foldl (· + ·) 0

/-- The greatest number of members. -/
def greatestLength : Nat := 0xFFFFFFFFFFFFFFFD

/-! ## §2 Reading a set -/

/-- A character of a set as it is written; one that was escaped has no special meaning. -/
abbrev Mark := Char × Bool

/-- Replaces escapes; gives also what there is to be warned of. -/
def unescape : (fuel : Nat) → List Char → List Mark × List String
  | 0, _ => ([], [])
  | fuel + 1, cs =>
    let isOctal (c : Char) : Bool := '0' ≤ c && c ≤ '7'
    let add (m : Mark) (warnings : List String) (rest : List Char) : List Mark × List String :=
      let (marks, more) := unescape fuel rest
      (m :: marks, warnings ++ more)
    match cs with
    | [] => ([], [])
    | ['\\'] =>
      add ('\\', false) ["warning: an unescaped backslash at end of string is not portable"] []
    | '\\' :: c :: rest =>
      if isOctal c then
        let digits := ((c :: rest).takeWhile isOctal).take 3
        let value := Number.ofDigits 8 digits
        if value < 256 then add (Char.ofNat value, true) [] ((c :: rest).drop digits.length)
        else
          let shown := String.ofList digits
          let short := String.ofList (digits.take 2)
          let last := String.ofList (digits.drop 2)
          add (Char.ofNat (Number.ofDigits 8 (digits.take 2)), true)
            ["warning: the ambiguous octal escape \\" ++ shown ++ " is being\n\t" ++
              "interpreted as the 2-byte sequence \\0" ++ short ++ ", " ++ last]
            ((c :: rest).drop 2)
      else match Quoting.escapeLetters.find? (·.2 = c) with
        | some (d, _) => add (d, true) [] rest
        | none => add (c, true) [] rest
    | c :: rest => add (c, false) [] rest

/-- A character as messages show it. -/
def shownChar (c : Char) : String :=
  String.ofList (if isVisible c then [c] else Quoting.octalEscape c)

/-- Characters as messages show them. -/
def shownChars (cs : List Char) : String :=
  let shown (c : Char) : List Char :=
    if c = '\\' then ['\\', '\\']
    else if isVisible c then [c]
    else Quoting.escapeOf ⟨[c], some c⟩
  String.ofList (cs.flatMap shown)

/-- What is wrong with a set. -/
inductive Fault where
  | repeatCount (digits : List Char)
  | noClass
  | noEquivalent
  | unknownClass (name : List Char)
  | severalEquivalents (chars : List Char)
  | reversed (first last : Char)

/-- What is said of a fault. -/
def Fault.message : Fault → Tool String
  | .repeatCount digits => do
    return "invalid repeat count " ++ (← shownArgument (shownChars digits)) ++
      " in [c*n] construct"
  | .noClass => return "missing character class name '[::]'"
  | .noEquivalent => return "missing equivalence class character '[==]'"
  | .unknownClass name => do
    return "invalid character class " ++ (← shownArgument (shownChars name))
  | .severalEquivalents chars =>
    return shownChars chars ++ ": equivalence class operand must be a single character"
  | .reversed first last =>
    return "range-endpoints of '" ++ shownChar first ++ "-" ++ shownChar last ++
      "' are in reverse collating sequence order"

/-- What stands before a delimiter and a closing bracket, and what comes after them. -/
def upToDelimiter (delimiter : Char) : List Mark → Option (List Char × List Mark)
  | m :: (']', false) :: rest =>
    if m = (delimiter, false) then some ([], rest)
    else (upToDelimiter delimiter ((']', false) :: rest)).map fun r => (m.1 :: r.1, r.2)
  | m :: rest => (upToDelimiter delimiter rest).map fun r => (m.1 :: r.1, r.2)
  | [] => none

/-- Reads a repetition after its opening bracket: the part and what comes after it; none if it is
none, and an error if its number is wrong. -/
def repetition? : List Mark → Except Fault (Option (Element × List Mark))
  | (c, _) :: ('*', false) :: rest =>
    let inside := rest.takeWhile fun m => !m.2 && m.1 ≠ ']'
    match rest.drop inside.length with
    | (']', false) :: after =>
      let digits := inside.map Prod.fst
      let base := if digits.head? = some '0' then 8 else 10
      if digits.isEmpty then .ok (some (.repeated c none, after))
      else match Number.scan (some base) digits with
        | some ⟨false, n, []⟩ =>
          if greatestLength < n then .error (.repeatCount digits)
          else .ok (some (.repeated c (if n = 0 then none else some n), after))
        | _ => .error (.repeatCount digits)
    | _ => .ok none
  | _ => .ok none

/-- Whether a repetition could stand where a class was looked for. -/
def looksRepeated : List Mark → Bool
  | ('*', false) :: rest =>
    match rest.dropWhile fun m => m.1.isDigit with
    | (']', false) :: _ => true
    | _ => false
  | _ => false

/-- Reads a class after its opening bracket; none if there is none, and an error if it is wrong. -/
def class? : List Mark → Except Fault (Option (Element × List Mark))
  | (d, false) :: rest =>
    if d ≠ ':' && d ≠ '=' then .ok none
    else match upToDelimiter d rest with
      | none => .ok none
      | some (name, after) =>
        let isNamed := d = ':'
        let text := String.ofList name
        let element? : Option Element :=
          if isNamed then (classOf? text).map fun _ => .named text
          else match name with
            | [c] => some (.alike c)
            | _ => none
        if name.isEmpty then
          .error (if isNamed then .noClass else .noEquivalent)
        else match element? with
          | some element => .ok (some (element, after))
          | none =>
            if looksRepeated rest then .ok none
            else .error (if isNamed then .unknownClass name else .severalEquivalents name)
  | _ => .ok none

/-- Reads the parts of a set. -/
def elements : (fuel : Nat) → List Mark → Except Fault (List Element)
  | 0, _ => .ok []
  | fuel + 1, marks => do
    match marks with
    | a :: b :: c :: rest =>
      let bracketed ← if a = ('[', false) then do
          match ← class? (b :: c :: rest) with
          | some found => pure (some found)
          | none => repetition? (b :: c :: rest)
        else pure none
      match bracketed with
      | some (element, after) => return element :: (← elements fuel after)
      | none =>
        if b = ('-', false) then
          if c.1 < a.1 then throw (.reversed a.1 c.1)
          else return .range a.1 c.1 :: (← elements fuel rest)
        else return .char a.1 :: (← elements fuel (b :: c :: rest))
    | marks => return marks.map fun m => .char m.1

/-- Reads a set. -/
def readSet (text : String) : Tool (List Element) := do
  let (marks, warnings) := unescape (text.length + 1) text.toList
  for warning in warnings do grumble warning
  match elements (marks.length + 1) marks with
  | .ok set => return set
  | .error fault =>
    grumble (← fault.message)
    quit 1

/-! ## §3 Checking two sets -/

/-- Gives up with a message. -/
def stop {α : Type} (message : String) : Tool α := do
  grumble message
  quit 1

/-- A second set whose repetition goes on for as long as is needed for a length. -/
def fillUp (length : Nat) (set : List Element) : List Element :=
  let missing := length - lengthOf set
  if lengthOf set ≤ length then
    set.map fun
      | .repeated c none => .repeated c (some missing)
      | e => e
  else set

/-- A member with the class that it comes from, if that is one of the two that differ in case, and
whether it is the first member of its part. -/
structure Member where
  char : Char
  case : Option String
  isFirst : Bool

/-- The members of a set with their classes; of those that one part repeats not more than `most`. -/
def casedMembers (most : Nat) (set : List Element) : List Member :=
  set.flatMap fun e =>
    let case := match e with
      | .named name => if e.isCase then some name else none
      | _ => none
    (e.members most).zipIdx.map fun (c, i) => { char := c, case, isFirst := i = 0 }

/-- A change that two sets ask for: of one byte, or of the case of all letters. -/
inductive Change where
  | one (source target : Char)
  | upper
  | lower
  deriving Repr

/-- The members after the part that the first one belongs to. -/
def afterPart (members : List Member) : List Member :=
  members.tail.dropWhile fun m => !m.isFirst

/-- The changes that two sets ask for as far as both go, and what is left of the first one; none if
classes do not stand side by side. -/
def pair : (fuel : Nat) → List Member → List Member → Option (List Change × List Member)
  | 0, first, _ => some ([], first)
  | fuel + 1, first, second =>
    match first, second with
    | m :: first', n :: second' =>
      if n.isFirst && n.case.isSome && !(m.isFirst && m.case.isSome) then none
      else if n.case.isSome then
        let change := match m.case, n.case with
          | some "lower", some "upper" => [Change.upper]
          | some "upper", some "lower" => [Change.lower]
          | _, _ => []
        (pair fuel (afterPart first) (afterPart second)).map fun r => (change ++ r.1, r.2)
      else (pair fuel first' second').map fun r => (.one m.char n.char :: r.1, r.2)
    | [], second =>
      match second with
      | n :: _ => if n.isFirst && n.case.isSome then none else some ([], [])
      | [] => some ([], [])
    | first, [] => some ([], first)

/-- The changes that replacing asks for. What a part of one set repeats is looked at only as far as
it may stand beside members of the other set, and one further. -/
def changesOf (complement truncate : Bool) (first second : List Element) : Tool (List Change) := do
  let mostFirst := lengthOf second + 2
  let inFirst := membersOf mostFirst first
  let outside := allChars.filter fun c => !inFirst.contains c
  let source := if complement then outside else inFirst
  let second := fillUp source.length second
  let mostSecond := source.length + 1
  let inSecond := membersOf mostSecond second
  if second.any fun e => match e with
      | .alike _ => true
      | _ => false then
    stop "[=c=] expressions may not appear in string2 when translating"
  if second.any fun e => e.isNamed && !e.isCase then
    stop ("when translating, the only character classes that may appear in\n" ++
      "string2 are 'upper' and 'lower'")
  let bare (cs : List Char) : List Member :=
    cs.map fun c => { char := c, case := none, isFirst := true }
  let sources := if complement then bare source else casedMembers mostFirst first
  let targets := if complement then bare inSecond else casedMembers mostSecond second
  match pair (sources.length + targets.length + 1) sources targets with
  | none => stop "misaligned [:upper:] and/or [:lower:] construct"
  | some (changes, left) =>
    let last := second.getLast?
    let lastChar := inSecond.getLast?
    let isShort := !left.isEmpty && !truncate
    if isShort && lastChar.isNone then
      stop "when not truncating set1, string2 must be non-empty"
    if isShort && (last.map Element.isNamed) = some true then
      stop ("when translating with string1 longer than string2,\n" ++
        "the latter string must not end with a character class")
    let target := lastChar.getD '\x00'
    let all := if isShort then changes ++ left.map fun m => .one m.char target else changes
    let isUniform := inSecond.all (· = target) && (isShort || left.isEmpty)
    if complement && first.any Element.isNamed && !isUniform then
      stop ("when translating with complemented character classes,\n" ++
        "string2 must map all characters in the domain to one")
    return all

/-! ## §4 Tables -/

/-- A table of what becomes of each byte. -/
def tableOf (changes : List Change) : Array UInt8 :=
  let byte (c : Char) : UInt8 := UInt8.ofNat c.toNat
  let put (table : Array UInt8) (source target : Char) : Array UInt8 :=
    table.setIfInBounds source.toNat (byte target)
  changes.foldl (fun table change =>
    match change with
    | .one source target => put table source target
    | .upper => (allChars.filter Char.isLower).foldl (fun table c => put table c c.toUpper) table
    | .lower => (allChars.filter Char.isUpper).foldl (fun table c => put table c c.toLower) table)
    (Array.ofFn fun (i : Fin 256) => UInt8.ofNat i.val)

/-- A table of the bytes that are in a set. -/
def contains (members : List Char) (complement : Bool) : Array Bool :=
  let marked := members.foldl (fun (table : Array Bool) c => table.setIfInBounds c.toNat true)
    (Array.replicate 256 false)
  if complement then marked.map (!·) else marked

/-- What is done with each byte: it may be deleted, replaced, and dropped after another one like
it. -/
structure Plan where
  deletes : Option (Array Bool) := none
  table : Option (Array UInt8) := none
  squeezes : Option (Array Bool) := none

/-- Does with some bytes what a plan says, given the last byte before them. -/
def Plan.apply (plan : Plan) (last : Option UInt8) (bytes : Bytes) : Bytes × Option UInt8 :=
  let has (table : Option (Array Bool)) (b : UInt8) : Bool :=
    match table with
    | some table => (table[b.toNat]?).getD false
    | none => false
  let (out, last) := bytes.foldl (fun (out, last) b =>
    if has plan.deletes b then (out, last)
    else
      let b := match plan.table with
        | some table => (table[b.toNat]?).getD b
        | none => b
      if last = some b && has plan.squeezes b then (out, last) else (b :: out, some b))
    (([] : Bytes), last)
  (out.reverse, last)

/-! ## §5 The utility -/

/-- The options. -/
def spec : OptionSpec where
  bare := "cCdst"
  long := [("complement", 'c'), ("delete", 'd'), ("squeeze-repeats", 's'), ("truncate-set1", 't')]
  mixes := false
  manual? := some .tr

/-- Complains about the number of operands, if it is wrong. -/
def checkOperands (deletes squeezes : Bool) (operands : List String) : Tool Unit := do
  let least := if deletes = squeezes then 2 else 1
  let most := if deletes && !squeezes then 1 else 2
  match operands with
  | [] => refuse "missing operand"
  | _ =>
    if operands.length < least then
      grumble ("missing operand after " ++ (← shownArgument (operands.getLast?.getD "")))
      addLine (if squeezes then
          "Two strings must be given when both deleting and squeezing repeats."
        else "Two strings must be given when translating.")
      giveUp
    else if most < operands.length then
      grumble ("extra operand " ++ (← shownArgument ((operands[most]?).getD "")))
      if operands.length = 2 then
        addLine "Only one string may be given when deleting without squeezing repeats."
      giveUp

/-- The plan that options and operands ask for. -/
def planOf (complement deletes squeezes truncates : Bool) (operands : List String) : Tool Plan := do
  let first ← readSet (operands.head?.getD "")
  let second? ← match operands[1]? with
    | some text => some <$> readSet text
    | none => pure none
  let isOpen (e : Element) : Bool := match e with
    | .repeated _ none => true
    | _ => false
  let checkLength (set : List Element) : Tool Unit := do
    if greatestLength < lengthOf set then stop "too many characters in set"
  checkLength first
  if first.any isOpen then stop "the [c*] repeat construct may not appear in string1"
  let inFirst := contains (membersOf 1 first) complement
  match second? with
  | none =>
    return if deletes then { deletes := some inFirst } else { squeezes := some inFirst }
  | some second =>
    checkLength second
    if 1 < (second.filter isOpen).length then
      stop "only one [c*] repeat construct may appear in string2"
    if deletes then
      if second.any isOpen then
        stop "the [c*] construct may appear in string2 only when translating"
      return { deletes := some inFirst, squeezes := some (contains (membersOf 1 second) false) }
    else
      let changes ← changesOf complement truncates first second
      let length := if complement then 256 - (membersOf 1 first).eraseDups.length
        else lengthOf first
      let inSecond := contains (membersOf 1 (fillUp length second)) false
      return {
        table := some (tableOf changes), squeezes := if squeezes then some inSecond else none }

/-- Replaces, deletes or squeezes bytes of its input. -/
def run (args : List String) : Tool Unit := do
  let parsed ← parse spec args
  let deletes := parsed.has 'd'
  let squeezes := parsed.has 's'
  checkOperands deletes squeezes parsed.operands
  let plan ←
    planOf (parsed.has 'c' || parsed.has 'C') deletes squeezes (parsed.has 't') parsed.operands
  repeated (fun (last : Option UInt8) => do
    match ← task (Task.read 0 65536) with
    | .error errno => stop ("read error: " ++ errno.text)
    | .ok [] => pure (.inr ())
    | .ok bytes =>
      let (out, last) := plan.apply last bytes
      say (Octets.ofBytes out)
      match (← get).failure with
      | some errno =>
        modify fun s => { s with failure := none }
        stop ("write error: " ++ errno.text)
      | none => pure (.inl last)) Task.endless none

end Exemplar.Utility.Translate
