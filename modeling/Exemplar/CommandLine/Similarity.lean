/-
Exemplar.CommandLine.Similarity — how alike two words are.

Two equal characters match if they are at most half the longer word apart, each character with at
most one other. The measure is the mean of three shares: of the matched characters in each of the
two words, and of those that stand in the same order.

  §1 matching characters
  §2 comparing words
-/

namespace Exemplar

/-! ## §1 Matching characters -/

/-- How much two words have in common: their lengths, how many characters match, and how many pairs
of these have changed places. -/
structure Similarity where
  left : Nat
  right : Nat
  matched : Nat
  moved : Nat
  deriving DecidableEq, Repr

namespace Similarity

/-- The first position from `position` on that lies in the window, is not used, and has the
character. -/
def partner (c : Char) (low high : Nat) (used : List Nat) (position : Nat) : List Char → Option Nat
  | [] => none
  | d :: ds =>
    if low ≤ position && position < high && d = c && !used.contains position then some position
    else partner c low high used (position + 1) ds

/-- The positions in `b` matched by the characters of `a` from position `i` on, in the order of `a`,
each with its character. -/
def pairs (b : List Char) (reach i : Nat) (used : List Nat) : List Char → List (Char × Nat)
  | [] => []
  | c :: cs =>
    match partner c (i - reach) (i + reach + 1) used 0 b with
    | some j => (c, j) :: pairs b reach (i + 1) (j :: used) cs
    | none => pairs b reach (i + 1) used cs

/-- What two words have in common. -/
def between (a b : String) : Similarity :=
  let (as, bs) := (a.toList, b.toList)
  let matched := pairs bs (max as.length bs.length / 2 - 1) 0 [] as
  let inOrder := (matched.map Prod.snd).mergeSort
  { left := as.length
    right := bs.length
    matched := matched.length
    moved := ((matched.zip inOrder).filter fun (p, j) => bs[j]? ≠ some p.1).length / 2 }

/-! ## §2 Comparing words -/

/-- The measure is `numerator / denominator`, a third of the sum of the shares. -/
def numerator (s : Similarity) : Nat :=
  s.matched * s.matched * s.right + s.matched * s.matched * s.left +
    (s.matched - s.moved) * s.left * s.right

/-- The measure is `numerator / denominator`; it is zero where nothing matches. -/
def denominator (s : Similarity) : Nat :=
  3 * (s.matched * s.left * s.right)

/-- Whether two words are alike: something matches, and the measure is at least seven tenths. -/
def isClose (s : Similarity) : Bool :=
  0 < s.matched && 7 * s.denominator ≤ 10 * s.numerator

/-- Whether `s` is more than `t`. Of the same measure, the one in which less has moved is more. -/
def exceeds (s t : Similarity) : Bool :=
  t.numerator * s.denominator < s.numerator * t.denominator ||
    (t.numerator * s.denominator = s.numerator * t.denominator && s.moved < t.moved)

/-- The word that is most like `word` among those that are like it, the last one of several. -/
def closest? (word : String) (candidates : List String) : Option String :=
  (candidates.filter fun c => (between word c).isClose).foldl
    (fun best c =>
      match best with
      | some b => if (between word b).exceeds (between word c) then some b else some c
      | none => some c) none

end Similarity

end Exemplar
