/-
Exemplar.Shell.Arithmetic — integer expressions.

Values are signed 64-bit numbers and wrap around. A variable has the number that its text writes,
and zero if it is not set. An assignment gives its value and is kept. What an operator does not need
is read but not evaluated: `Mode` says which of both is done.

  §1 tokens
  §2 operators
  §3 evaluation
-/
import Exemplar.Number.Integer
import Exemplar.Shell.Grammar

namespace Exemplar.Shell.Arithmetic

/-! ## §1 Tokens -/

/-- The smallest parts of an expression. -/
inductive Tok where
  | num (n : Int)
  | name (s : String)
  | op (s : String)
  /-- A character that stands nowhere. -/
  | bad
  deriving DecidableEq, Repr, Inhabited

/-- The operators, the longer ones first. -/
def operators : List String :=
  ["<<=", ">>=", "&&", "||", "==", "!=", "<=", ">=", "<<", ">>", "+=", "-=", "*=", "/=", "%=", "&=",
   "|=", "^=", "+", "-", "*", "/", "%", "(", ")", "<", ">", "!", "~", "&", "|", "^", "?", ":", "="]

/-- The tokens of an expression. What follows on a character that stands nowhere is not looked
at. -/
def tokens : (fuel : Nat) → List Char → List Tok
  | 0, _ => []
  | fuel + 1, cs =>
    match cs with
    | [] => []
    | c :: rest =>
      if c = ' ' || c = '\t' || c = '\n' then tokens fuel rest
      else if c.isDigit then
        match Number.scan none cs with
        | some n => .num n.signed.1 :: tokens fuel n.rest
        | none => [.bad]
      else if startsName c then
        let word := cs.takeWhile inName
        .name (String.ofList word) :: tokens fuel (cs.drop word.length)
      else match operators.find? fun op => op.toList.isPrefixOf cs with
        | some op => .op op :: tokens fuel (cs.drop op.length)
        | none => [.bad]

/-! ## §2 Operators -/

/-- Why an expression has no value. -/
inductive Fault where
  /-- What the expression lacks, or does wrong. -/
  | expression (message : String)
  /-- A variable does not have a number. -/
  | illegalNumber (text : String)
  /-- A quotient that is no number, at which a process ends. -/
  | overflow
  deriving DecidableEq, Repr

/-- The number in the range of 64 bits that differs by whole turns. -/
def wrap (n : Int) : Int := n.bmod 0x10000000000000000

/-- One for true and zero for false. -/
def ofBool (b : Bool) : Int := if b then 1 else 0

/-- A number as 64 bits. -/
def bits (n : Int) : BitVec 64 := BitVec.ofInt 64 n

/-- How loosely a binary operator binds; those that may leave an operand out are not among them. -/
def looseness? (op : String) : Option Nat :=
  match op with
  | "*" | "/" | "%" => some 0
  | "+" | "-" => some 1
  | "<<" | ">>" => some 2
  | "<" | ">" | "<=" | ">=" => some 3
  | "==" | "!=" => some 4
  | "&" => some 5
  | "^" => some 6
  | "|" => some 7
  | _ => none

/-- More loosely than any operator binds. -/
def loosest : Nat := 8

/-- The operator that an assignment makes with the old value, if it is one that does. -/
def assigning? (op : String) : Option String :=
  if ["+=", "-=", "*=", "/=", "%=", "<<=", ">>=", "&=", "^=", "|="].contains op then
    some (String.ofList op.toList.dropLast)
  else none

/-- Whether the least number is divided by minus one, of which the quotient is no number. -/
def exceeds (a b : Int) : Bool := a = -0x8000000000000000 && b = -1

/-- Finds fault with what a number cannot be divided by. -/
def checkDivisor (a b : Int) : Except Fault Unit :=
  if b = 0 then .error (.expression "division by zero")
  else if exceeds a b then .error .overflow
  else .ok ()

/-- The value of a binary operation. -/
def combine (op : String) (a b : Int) : Except Fault Int :=
  match op with
  | "|" => .ok (bits a ||| bits b).toInt
  | "^" => .ok (bits a ^^^ bits b).toInt
  | "&" => .ok (bits a &&& bits b).toInt
  | "==" => .ok (ofBool (a = b))
  | "!=" => .ok (ofBool (a ≠ b))
  | "<" => .ok (ofBool (a < b))
  | ">" => .ok (ofBool (a > b))
  | "<=" => .ok (ofBool (a ≤ b))
  | ">=" => .ok (ofBool (a ≥ b))
  | "<<" => .ok (bits a <<< (b % 64).toNat).toInt
  | ">>" => .ok ((bits a).sshiftRight (b % 64).toNat).toInt
  | "+" => .ok (wrap (a + b))
  | "-" => .ok (wrap (a - b))
  | "*" => .ok (wrap (a * b))
  | "/" => do
    checkDivisor a b
    return a.tdiv b
  | _ => do
    checkDivisor a b
    return a.tmod b

/-! ## §3 Evaluation -/

/-- Whether values are needed. -/
inductive Mode where
  | evaluating
  | reading
  deriving DecidableEq, Repr

/-- Nothing is evaluated that was not before, and nothing if it is not needed. -/
def Mode.need (mode : Mode) (needed : Bool) : Mode := if needed then mode else .reading

/-- Values that were assigned, the latest first. -/
abbrev Scope := List (String × Int)

/-- A part of an evaluation that gives an `α`. What was assigned stays so where it fails. -/
abbrev Calc (α : Type) := ExceptT Fault (StateM Scope) α

/-- How an evaluation goes on from the tokens that are left: it gives a value and takes some of
them. -/
abbrev Evaluator := Mode → List Tok → Calc (Int × List Tok)

/-- Gives up an evaluation. -/
def refuse {α : Type} (message : String) : Calc α := throw (.expression message)

/-- A number that a variable has as its value. -/
def ofValue (text : String) : Except Fault Int :=
  let cs := text.toList
  match Number.scan none cs with
  | none => if cs.all Number.isSpace then .ok 0 else .error (.illegalNumber text)
  | some n =>
    let (value, isCut) := n.signed
    if isCut || !n.rest.all Number.isSpace then .error (.illegalNumber text) else .ok value

/-- The value of a variable. -/
def look (values : String → Option String) (name : String) : Calc Int := do
  match (← get).lookup name with
  | some n => return n
  | none => ExceptT.mk (pure (ofValue ((values name).getD "")))

/-- Evaluates the smallest expression at the start. -/
def primary (values : String → Option String) (inner : Evaluator) (mode : Mode) :
    List Tok → Calc (Int × List Tok)
  | .op "(" :: rest => do
    let (v, rest) ← inner mode rest
    match rest with
    | .op ")" :: rest => pure (v, rest)
    | _ => refuse "expecting ')'"
  | .num n :: rest => pure (n, rest)
  | .name x :: rest =>
    match mode with
    | .reading => pure (0, rest)
    | .evaluating => do pure (← look values x, rest)
  | .op "+" :: rest => primary values inner mode rest
  | .op "-" :: rest => do
    let (v, rest) ← primary values inner mode rest
    pure (wrap (-v), rest)
  | .op "!" :: rest => do
    let (v, rest) ← primary values inner mode rest
    pure (ofBool (v = 0), rest)
  | .op "~" :: rest => do
    let (v, rest) ← primary values inner mode rest
    pure ((~~~ bits v).toInt, rest)
  | _ => refuse "expecting primary"

/-- The binary operator at the start, if it binds less loosely than `limit`. -/
def operatorBelow? (limit : Nat) : List Tok → Option (String × Nat × List Tok)
  | .op op :: rest =>
    match looseness? op with
    | some looseness => if looseness < limit then some (op, looseness, rest) else none
    | none => none
  | _ => none

/-- Goes on from a value with the binary operators that bind less loosely than `limit`. -/
def binaryFrom (first : Evaluator) (mode : Mode) :
    (fuel : Nat) → (limit : Nat) → Int → List Tok → Calc (Int × List Tok)
  | 0, _, a, toks => pure (a, toks)
  | fuel + 1, limit, a, toks =>
    match operatorBelow? limit toks with
    | none => pure (a, toks)
    | some (op, looseness, rest) => do
      let (b, rest) ← first mode rest
      let (b, rest) ← binaryFrom first mode fuel looseness b rest
      let v ← match mode with
        | .reading => pure b
        | .evaluating => ExceptT.mk (pure (combine op a b))
      binaryFrom first mode fuel limit v rest

/-- Evaluates binary operations. -/
def binary (first : Evaluator) (mode : Mode) (toks : List Tok) : Calc (Int × List Tok) := do
  let (a, rest) ← first mode toks
  binaryFrom first mode rest.length loosest a rest

/-- Evaluates a conjunction. -/
def conjunction (first : Evaluator) : (fuel : Nat) → Evaluator
  | 0, mode, toks => binary first mode toks
  | fuel + 1, mode, toks => do
    let (a, rest) ← binary first mode toks
    match rest with
    | .op "&&" :: rest =>
      let (b, rest) ← conjunction first fuel (mode.need (a ≠ 0)) rest
      pure (ofBool (a ≠ 0 && b ≠ 0), rest)
    | rest => pure (a, rest)

/-- Evaluates a disjunction. -/
def disjunction (first : Evaluator) : (fuel : Nat) → Evaluator
  | 0, mode, toks => conjunction first toks.length mode toks
  | fuel + 1, mode, toks => do
    let (a, rest) ← conjunction first toks.length mode toks
    match rest with
    | .op "||" :: rest =>
      let (b, rest) ← disjunction first fuel (mode.need (a = 0)) rest
      pure (ofBool (a ≠ 0 || b ≠ 0), rest)
    | rest => pure (a, rest)

/-- Evaluates a choice between two values. -/
def choice (first inner : Evaluator) : (fuel : Nat) → Evaluator
  | 0, mode, toks => disjunction first toks.length mode toks
  | fuel + 1, mode, toks => do
    let (a, rest) ← disjunction first toks.length mode toks
    match rest with
    | .op "?" :: rest =>
      let (b, rest) ← inner (mode.need (a ≠ 0)) rest
      match rest with
      | .op ":" :: rest =>
        let (c, rest) ← choice first inner fuel (mode.need (a = 0)) rest
        pure (if a ≠ 0 then b else c, rest)
      | _ => refuse "expecting ':'"
    | rest => pure (a, rest)

/-- Evaluates an expression in which others stand at most so deep. -/
def eval (values : String → Option String) : (depth : Nat) → Evaluator
  | 0, _, _ => refuse "expecting primary"
  | depth + 1, mode, toks =>
    let inner := eval values depth
    let chosen (_ : Unit) : Calc (Int × List Tok) :=
      choice (primary values inner) inner toks.length mode toks
    match toks with
    | .name x :: .op op :: rest =>
      match assigning? op, decide (op = "=") with
      | none, false => chosen ()
      | old?, _ => do
        let (v, rest) ← inner mode rest
        match mode with
        | .reading => pure (v, rest)
        | .evaluating =>
          let v ← match old? with
            | none => pure v
            | some op => ExceptT.mk (pure (combine op (← look values x) v))
          modify ((x, v) :: ·)
          pure (v, rest)
    | _ => chosen ()

/-- The value of an expression, or why it has none, and the assignments that were made, the first
one first. -/
def run (values : String → Option String) (expr : String) : Except Fault Int × Scope :=
  let whole : Calc Int := do
    let toks := tokens (expr.length + 1) expr.toList
    let (v, rest) ← eval values (toks.length + 1) .evaluating toks
    if rest.isEmpty then pure v else refuse "expecting EOF"
  let (result, scope) := whole.run.run []
  (result, scope.reverse)

end Exemplar.Shell.Arithmetic
