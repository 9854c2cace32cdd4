/-
Exemplar.Shell.Pattern — patterns for texts and names.

A pattern is written in characters, of which some are marked: these stand for themselves. It is a
list of items: a character that stands for itself, any character, any run, or a set.

  §1 patterns and matching
  §2 reading a pattern
-/

namespace Exemplar.Shell

/-! ## §1 Patterns and matching -/

/-- One part of a pattern. -/
inductive Glob where
  | char (c : Char)
  | any
  | run
  /-- One of the characters in the ranges, or, if `negated`, any other. -/
  | set (negated : Bool) (ranges : List (Char × Char))
  deriving DecidableEq, Repr

/-- The place of a byte in the order that ranges go by: from 128 on a byte counts as negative. -/
def rank (c : Char) : Int := if c.toNat < 128 then c.toNat else (c.toNat : Int) - 256

/-- Whether a part that stands for one character stands for this one. -/
def Glob.accepts : Glob → Char → Bool
  | .char d, c => c = d
  | .any, _ => true
  | .run, _ => true
  | .set negated ranges, c =>
    (ranges.any fun r => rank r.1 ≤ rank c && rank c ≤ rank r.2) != negated

/-- The rests of a pattern with which matching may go on where it has come to one: a run may be
over. -/
def entries : List Glob → List (List Glob)
  | .run :: rest => (.run :: rest) :: entries rest
  | pattern => [pattern]

/-- The rests of a pattern after one more character. -/
def advance (states : List (List Glob)) (c : Char) : List (List Glob) :=
  (states.flatMap fun
    | [] => []
    | .run :: rest => entries (.run :: rest)
    | item :: rest => if item.accepts c then entries rest else []).eraseDups

/-- Whether a pattern matches all of a text. -/
def globMatch (pattern : List Glob) (cs : List Char) : Bool :=
  (cs.foldl advance (entries pattern)).contains []

/-- The lengths of the starts of a text that a pattern matches, the longest first. -/
def matchedLengths (pattern : List Glob) (cs : List Char) : List Nat :=
  let rec go (length : Nat) (states : List (List Glob)) (found : List Nat) : List Char → List Nat
    | [] => if states.contains [] then length :: found else found
    | c :: cs =>
      let found := if states.contains [] then length :: found else found
      if states.isEmpty then found else go (length + 1) (advance states c) found cs
  go 0 (entries pattern) [] cs

/-! ## §2 Reading a pattern -/

/-- A character of a pattern; one that is marked stands for itself. -/
abbrev Marked := Char × Bool

/-- The characters of a class, given by its name. -/
def classRanges? (name : String) : Option (List (Char × Char)) :=
  match name with
  | "upper" => some [('A', 'Z')]
  | "lower" => some [('a', 'z')]
  | "alpha" => some [('A', 'Z'), ('a', 'z')]
  | "digit" => some [('0', '9')]
  | "alnum" => some [('0', '9'), ('A', 'Z'), ('a', 'z')]
  | "space" => some [('\t', '\r'), (' ', ' ')]
  | "blank" => some [('\t', '\t'), (' ', ' ')]
  | "punct" => some [('!', '/'), (':', '@'), ('[', '\x60'), ('\x7b', '~')]
  | "cntrl" => some [('\x00', '\x1f'), ('\x7f', '\x7f')]
  | "xdigit" => some [('0', '9'), ('A', 'F'), ('a', 'f')]
  | "print" => some [(' ', '~')]
  | "graph" => some [('!', '~')]
  | _ => none

/-- The class that stands at the start of some characters, after its bracket, and what comes after
it. -/
def classAt? (cs : List Marked) : Option (List (Char × Char) × List Marked) :=
  match cs with
  | (':', false) :: rest =>
    let name := rest.takeWhile fun c => c.1.isAlpha && !c.2
    match rest.drop name.length with
    | (':', false) :: (']', false) :: after =>
      (classRanges? (String.ofList (name.map Prod.fst))).map (·, after)
    | _ => none
  | _ => none

/-- The ranges up to the bracket that closes a set, and what comes after it. -/
def setRanges (first : Bool) (acc : List (Char × Char)) :
    (fuel : Nat) → List Marked → Option (List (Char × Char) × List Marked)
  | 0, _ => none
  | fuel + 1, cs =>
    match cs with
    | [] => none
    | (c, marked) :: rest =>
      if c = ']' && !marked && !first then some (acc, rest)
      else
        let class? := if c = '[' && !marked then classAt? rest else none
        match class? with
        | some (ranges, after) => setRanges false (acc ++ ranges) fuel after
        | none =>
          match rest with
          | ('-', false) :: (d, dMarked) :: after =>
            if d = ']' && !dMarked then setRanges false (acc ++ [(c, c)]) fuel rest
            else setRanges false (acc ++ [(c, d)]) fuel after
          | _ => setRanges false (acc ++ [(c, c)]) fuel rest

/-- The pattern that characters write, with a bound for its length. -/
def globOf : (fuel : Nat) → List Marked → List Glob
  | 0, _ => []
  | fuel + 1, cs =>
    match cs with
    | [] => []
    | (c, true) :: rest => .char c :: globOf fuel rest
    | ('*', false) :: rest => .run :: globOf fuel rest
    | ('?', false) :: rest => .any :: globOf fuel rest
    | ('[', false) :: rest =>
      let (negated, start) := match rest with
        | ('!', false) :: after => (true, after)
        | rest => (false, rest)
      match setRanges true [] (start.length + 1) start with
      | some (ranges, after) => .set negated ranges :: globOf fuel after
      | none => .char '[' :: globOf fuel rest
    | (c, false) :: rest => .char c :: globOf fuel rest

/-- The pattern that characters write. -/
def glob (cs : List Marked) : List Glob :=
  globOf (cs.length + 1) cs

/-- The characters that a text with backslashes writes: one after a backslash stands for itself. -/
def markedOf : List Char → List Marked
  | [] => []
  | ['\\'] => [('\\', true)]
  | '\\' :: c :: rest => (c, true) :: markedOf rest
  | c :: rest => (c, false) :: markedOf rest

end Exemplar.Shell
