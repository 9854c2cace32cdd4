/-
Exemplar.Utility.Test — conditions decided by a program: `test` and `[`.

How many words there are says first what they mean; only where there are more than four, or the
words do not fit, are they read as terms with `-a` and `-o` between them. All terms are decided,
also where one would do.

  §1 complaints
  §2 operators
  §3 few words
  §4 terms
-/
import Exemplar.Kernel.Sight
import Exemplar.Utility.Basic

namespace Exemplar.Utility.Test

/-! ## §1 Complaints -/

/-- Ends all with a complaint about the condition. -/
def refuseCondition {α : Type} (message : String) : Tool α := do
  grumble message
  quit 2

/-- How a condition ends: its last word, and what stands after that if it is in brackets. -/
structure Ending where
  last : String
  bracket? : Option String

/-- Ends all because a word is missing after the last one. -/
def refuseEnd {α : Type} (ending : Ending) : Tool α := do
  refuseCondition ("missing argument after " ++ (← shownArgument ending.last))

/-- Ends all because there is something else in the place of a closing parenthesis. -/
def refuseOpen {α : Type} (ending : Ending) (rest : List String) : Tool α := do
  let found ← match rest.head?.or ending.bracket? with
    | some word => pure (", found " ++ (← shownArgument word))
    | none => pure ""
  refuseCondition ((← shownArgument ")") ++ " expected" ++ found)

/-! ## §2 Operators -/

/-- Whether a word is an operator on two operands. -/
def isBinary (word : String) : Bool :=
  ["=", "==", "!=", "-eq", "-ne", "-lt", "-le", "-gt", "-ge", "-nt", "-ot", "-ef"].contains word

/-- The letter of a word that could be an operator on one operand. -/
def letter? (word : String) : Option Char :=
  match word.toList with
  | ['-', c] => some c
  | _ => none

/-- The number that an operand writes, with blanks around it. -/
def numberOf (text : String) : Tool Int := do
  let cs := text.toList.dropWhile Number.isSpace
  let (isNegative, cs) := match cs with
    | '+' :: cs => (false, cs)
    | '-' :: cs => (true, cs)
    | cs => (false, cs)
  let (digits, rest) := cs.span Char.isDigit
  if digits.isEmpty || !rest.all Number.isSpace then
    refuseCondition ("invalid integer " ++ (← shownArgument text))
  let size : Int := Number.ofDigits 10 digits
  return if isNegative then -size else size

/-- Decides a condition on two operands. What is not there counts as older than all that is. -/
def binary (a op b : String) : Tool Bool := do
  let compare (f : Int → Int → Bool) : Tool Bool := do
    let x ← numberOf a
    let y ← numberOf b
    return f x y
  let isOlder (x y : Option Stamp) : Bool :=
    match x, y with
    | some x, some y => x.isBefore y
    | none, some _ => true
    | _, none => false
  let stamps := task (Task.view fun pid k => (k.stampAt? pid a, k.stampAt? pid b))
  match op with
  | "!=" => return a ≠ b
  | "-eq" => compare fun x y => x = y
  | "-ne" => compare fun x y => x ≠ y
  | "-lt" => compare fun x y => x < y
  | "-le" => compare fun x y => x ≤ y
  | "-gt" => compare fun x y => y < x
  | "-ge" => compare fun x y => y ≤ x
  | "-nt" =>
    let (x, y) ← stamps
    return isOlder y x
  | "-ot" =>
    let (x, y) ← stamps
    return isOlder x y
  | "-ef" => task (Task.view fun pid k => k.leadTogether pid a b)
  | _ => return a = b

/-- Decides a condition on one operand. -/
def unary (letter : Char) (operand : String) : Tool Bool := do
  match letter with
  | 'z' => return operand = ""
  | 'n' => return operand ≠ ""
  | 't' =>
    let _ ← numberOf operand
    return false
  | _ => task (Task.view fun pid k => k.answers pid letter operand)

/-- Refuses an operator on one operand that is none. -/
def needUnary (word : String) (letter : Char) : Tool Unit := do
  if !"bcdefghknprstuwxzGLNOS".toList.contains letter then
    refuseCondition ((← shownArgument word) ++ ": unary operator expected")

/-! ## §3 Few words -/

/-- What decides a condition at the start of some words, and gives the words after it. -/
abbrev Decision := List String → Tool (Bool × List String)

/-- Decides two words. -/
def two (ending : Ending) : Decision
  | a :: b :: rest => do
    if a = "!" then return (b = "", rest)
    match letter? a with
    | some letter =>
      needUnary a letter
      return (← unary letter b, rest)
    | none => refuseEnd ending
  | _ => refuseEnd ending

/-- Decides three words; `whole` decides them if they are terms. -/
def three (ending : Ending) (whole : Decision) : Decision
  | a :: b :: c :: rest => do
    if isBinary b then return (← binary a b c, rest)
    else if a = "!" then
      let (holds, rest) ← two ending (b :: c :: rest)
      return (!holds, rest)
    else if a = "(" && c = ")" then return (b ≠ "", rest)
    else if b = "-a" || b = "-o" then whole (a :: b :: c :: rest)
    else refuseCondition ((← shownArgument b) ++ ": binary operator expected")
  | _ => refuseEnd ending

/-- Decides so many words. -/
def counted (ending : Ending) (whole : Decision) (count : Nat) (words : List String) :
    Tool (Bool × List String) := do
  match count, words with
  | 1, a :: rest => return (a ≠ "", rest)
  | 2, words => two ending words
  | 3, words => three ending whole words
  | 4, a :: b :: c :: d :: rest =>
    if a = "!" then
      let (holds, rest) ← three ending whole (b :: c :: d :: rest)
      return (!holds, rest)
    else if a = "(" && d = ")" then
      let (holds, rest) ← two ending (b :: c :: d :: rest)
      return (holds, rest.drop 1)
    else whole (a :: b :: c :: d :: rest)
  | _, words => whole words

/-! ## §4 Terms -/

/-- How many words stand in parentheses that have just been opened: all that there are, if they do
not close soon. -/
def countInside (words : List String) : Nat :=
  match words.zipIdx.find? fun (word, i) => 0 < i && word = ")" with
  | some (_, i) => if i ≤ 4 then i else words.length
  | none => words.length

/-- Decides a term of one word, or of two. -/
def short (ending : Ending) (a : String) (words : List String) : Tool (Bool × List String) := do
  match letter? a, words with
  | some letter, b :: rest =>
    needUnary a letter
    return (← unary letter b, rest)
  | some letter, [] =>
    needUnary a letter
    refuseEnd ending
  | none, words => return (a ≠ "", words)

/-- Decides a term, which may be negated; `inside` decides so many words in parentheses. -/
def term (ending : Ending) (inside : Nat → Decision) (words : List String) :
    Tool (Bool × List String) := do
  let rest := words.dropWhile (· = "!")
  let isNegated := (words.length - rest.length) % 2 = 1
  let (holds, rest) ← match rest with
    | [] => refuseEnd ending
    | ["("] => refuseEnd ending
    | "(" :: words =>
      let (holds, rest) ← inside (countInside words) words
      match rest with
      | ")" :: rest => pure (holds, rest)
      | rest => refuseOpen ending rest
    | a :: words =>
      match words with
      | op :: b :: rest =>
        if isBinary op then pure (← binary a op b, rest) else short ending a words
      | _ => short ending a words
  return (holds != isNegated, rest)

/-- Decides terms with an operator between them. -/
def joined (op : String) (join : Bool → Bool → Bool) (each : Decision) : (fuel : Nat) → Decision
  | 0, words => each words
  | fuel + 1, words => do
    let (holds, rest) ← each words
    match rest with
    | word :: rest =>
      if word = op then
        let (others, rest) ← joined op join each fuel rest
        return (join holds others, rest)
      else return (holds, word :: rest)
    | [] => return (holds, [])

/-- Decides so many words, with parentheses in them at most so deep. -/
def decideTo (ending : Ending) : (depth : Nat) → Nat → Decision
  | 0, _, _ => refuseEnd ending
  | depth + 1, count, words =>
    let fuel := words.length
    let terms := joined "-a" and (term ending (decideTo ending depth)) fuel
    counted ending (joined "-o" or terms fuel) count words

/-- Decides a condition: the status is zero if it holds. Under the name `[` the last argument has to
be the closing bracket. -/
def run (isBracket : Bool) (args : List String) : Tool Unit := do
  let words := if isBracket then args.dropLast else args
  if isBracket && args.getLast? ≠ some "]" then
    refuseCondition ("missing " ++ (← shownArgument "]"))
  noteStatus 1
  if let some last := words.getLast? then
    let ending : Ending := ⟨last, if isBracket then some "]" else none⟩
    let (holds, rest) ← decideTo ending (words.length + 1) words.length words
    match rest with
    | word :: _ => refuseCondition ("extra argument " ++ (← shownArgument word))
    | [] => noteStatus (if holds then 0 else 1)

end Exemplar.Utility.Test
