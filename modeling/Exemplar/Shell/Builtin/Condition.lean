/-
Exemplar.Shell.Builtin.Condition — the conditions that `test` decides.

A condition is a list of words. A word that could be an operator is one only where its neighbours
leave it that part: one for a single operand needs a word after it, and is an operand itself if that
word is an operator for two. With three words the one in the middle decides first.

  §1 operators
  §2 comparisons
  §3 conditions
-/
import Exemplar.Kernel.Sight
import Exemplar.Shell.Builtin.Basic

namespace Exemplar.Shell.Condition

/-! ## §1 Operators -/

/-- What part a word can play. -/
inductive Part where
  /-- An operator on one operand. -/
  | unary
  /-- An operator on two operands. -/
  | binary
  | not
  | and
  | or
  | opening
  | closing
  deriving DecidableEq, Repr

/-- The part that a word can play, if it is not an operand. -/
def partOf? (word : String) : Option Part :=
  if ["-r", "-w", "-x", "-e", "-f", "-d", "-c", "-b", "-p", "-u", "-g", "-k", "-s", "-t", "-z",
      "-n", "-h", "-O", "-G", "-L", "-S"].contains word then some .unary
  else if ["=", "!=", "<", ">", "-eq", "-ne", "-ge", "-gt", "-le", "-lt", "-nt", "-ot",
      "-ef"].contains word then some .binary
  else match word with
    | "!" => some .not
    | "-a" => some .and
    | "-o" => some .or
    | "(" => some .opening
    | ")" => some .closing
    | _ => none

/-- What a word is, given the words from it on: none at their end, and in it none for an operand. -/
def readPart : List String → Option (Option Part)
  | [] => none
  | word :: rest =>
    match partOf? word with
    | some .unary =>
      match rest with
      | [] => some none
      | [_] => some (some .unary)
      | next :: _ => some (if partOf? next = some .binary then none else some .unary)
    | some .opening => some (if rest.isEmpty then none else some .opening)
    | part => some part

/-! ## §2 Comparisons -/

/-- The number that an operand writes. -/
def numberOf (text : String) : Act Int := do
  match Number.scan (some 10) text.toList with
  | some n =>
    let (value, isCut) := n.signed
    if isCut || !n.rest.all Number.isSpace then fail ("Illegal number: " ++ text) else return value
  | none => fail ("Illegal number: " ++ text)

/-- Decides a condition on two operands. -/
def binary (a op b : String) : Act Bool := do
  let compare (f : Int → Int → Bool) : Act Bool := do
    let x ← numberOf a
    let y ← numberOf b
    return f x y
  let compareStamps (f : Stamp → Stamp → Bool) : Act Bool := do
    task (Task.view fun pid k => match k.stampAt? pid a, k.stampAt? pid b with
      | some x, some y => f x y
      | _, _ => false)
  match op with
  | "=" => return a = b
  | "!=" => return a ≠ b
  | "<" => return a < b
  | ">" => return b < a
  | "-eq" => compare fun x y => x = y
  | "-ne" => compare fun x y => x ≠ y
  | "-lt" => compare fun x y => x < y
  | "-le" => compare fun x y => x ≤ y
  | "-gt" => compare fun x y => y < x
  | "-ge" => compare fun x y => y ≤ x
  | "-nt" => compareStamps fun x y => y.isBefore x
  | "-ot" => compareStamps Stamp.isBefore
  | _ => task (Task.view fun pid k => k.leadTogether pid a b)

/-- Decides a condition on one operand. -/
def unary (op arg : String) : Act Bool := do
  match op with
  | "-z" => return arg = ""
  | "-n" => return arg ≠ ""
  | "-t" =>
    let _ ← numberOf arg
    return false
  | op => task (Task.view fun pid k => k.answers pid (op.toList.getD 1 '-') arg)

/-! ## §3 Conditions -/

/-- A condition at the start of some words, given what the first of them is: whether it holds, and
the words from its last one on. -/
abbrev Decision := Option (Option Part) → List String → Act (Bool × List String)

/-- Decides what is neither negated nor joined; `inner` decides what stands in parentheses. -/
def primary (inner : Decision) : Decision := fun part words => do
  match part, words with
  | none, _ => return (false, words)
  | some (some .opening), words =>
    let words := words.tail
    match readPart words with
    | some (some .closing) => return (false, words)
    | part =>
      let (holds, words) ← inner part words
      let words := words.tail
      if readPart words ≠ some (some .closing) then fail "closing paren expected"
      return (holds, words)
  | some (some .unary), op :: rest =>
    match rest with
    | [] => fail (op ++ ": argument expected")
    | arg :: _ => return (← unary op arg, rest)
  | _, a :: rest =>
    match readPart rest, rest with
    | some (some .binary), op :: after =>
      match after with
      | [] => fail (op ++ ": argument expected")
      | b :: _ => return (← binary a op b, after)
    | _, _ => return (a ≠ "", words)
  | _, [] => return (false, [])

/-- Decides what may be negated. -/
def negation (inner : Decision) : (fuel : Nat) → Decision
  | 0 => primary inner
  | fuel + 1 => fun part words => do
    if part ≠ some (some .not) then primary inner part words
    else
      let next := readPart words.tail
      let (holds, words) ← negation inner fuel next (if next.isNone then words else words.tail)
      return (!holds, words)

/-- Decides conditions that all have to hold. -/
def conjunction (inner : Decision) : (fuel : Nat) → Decision
  | 0 => fun _ words => return (true, words)
  | fuel + 1 => fun part words => do
    let (holds, words) ← negation inner words.length part words
    if readPart words.tail = some (some .and) then
      let rest := words.drop 2
      let (others, words) ← conjunction inner fuel (readPart rest) rest
      return (holds && others, words)
    else return (holds, words)

/-- Decides conditions of which one has to hold. -/
def disjunction (inner : Decision) : (fuel : Nat) → Decision
  | 0 => fun _ words => return (false, words)
  | fuel + 1 => fun part words => do
    let (holds, words) ← conjunction inner (words.length + 1) part words
    if readPart words.tail = some (some .or) then
      let rest := words.drop 2
      let (others, words) ← disjunction inner fuel (readPart rest) rest
      return (holds || others, words)
    else return (holds, words)

/-- Decides a condition in which others stand in parentheses at most so deep. -/
def decideTo : (depth : Nat) → Decision
  | 0 => fun _ words => return (false, words)
  | depth + 1 => fun part words => disjunction (decideTo depth) (words.length + 1) part words

/-- Decides the condition that words write. -/
def decideAll (part : Option (Option Part)) (words : List String) : Act Bool := do
  let (holds, rest) ← decideTo (words.length + 1) part words
  match rest with
  | word :: _ :: _ =>
    fail (if word = "" then "unexpected operator" else word ++ ": unexpected operator")
  | _ => return holds

/-- Decides the condition that words write, with what their number says about them first: three or
four words may stand in parentheses or be negated as a whole. -/
def holds (negated : Bool) : (fuel : Nat) → List String → Act Bool
  | 0, _ => return false
  | fuel + 1, words => do
    let settle (part : Option (Option Part)) (words : List String) : Act Bool := do
      return (← decideAll part words) != negated
    let middle? := if words.length = 3 then words[1]?.bind partOf? else none
    if words.isEmpty then return false
    else if middle? = some .binary then settle (some none) words
    else if words.length = 3 || words.length = 4 then
      if words.head? = some "(" && words.getLast? = some ")" then
        let inside := words.tail.dropLast
        settle (readPart inside) inside
      else if words.head? = some "!" then holds true fuel words.tail
      else settle (readPart words) words
    else settle (readPart words) words

/-- Decides a condition; under the name `[` the last argument has to be the closing bracket. -/
def test (args : List String) : Act Nat := do
  let isBracket := match (← get).caller with
    | some name => name.startsWith "["
    | none => false
  let isClosed := match args.getLast? with
    | some arg => arg.startsWith "]"
    | none => false
  if isBracket && !isClosed then fail "missing ]"
  let words := if isBracket then args.dropLast else args
  return if ← holds false (words.length + 1) words then 0 else 1

end Exemplar.Shell.Condition
