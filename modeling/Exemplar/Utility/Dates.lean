/-
Exemplar.Utility.Dates — times of the calendar.

A time is given by the seconds since the start of the year 1970. A `Date` says the same by year,
month, day and time of day. A pattern shows a time: a percent sign in it, with marks after it and a
letter, stands for one part.

  §1 dates
  §2 weeks
  §3 patterns
-/
import Exemplar.Number.Integer

namespace Exemplar.Utility

/-! ## §1 Dates -/

/-- A time by the calendar; months and days are counted from one. -/
structure Date where
  year : Nat
  month : Nat
  day : Nat
  hour : Nat
  minute : Nat
  second : Nat
  deriving DecidableEq, Repr

namespace Date

/-- Whether a year has one day more. -/
def isLong (year : Nat) : Bool := year % 4 = 0 && (year % 100 ≠ 0 || year % 400 = 0)

/-- The days of the months of a year. -/
def monthLengths (year : Nat) : List Nat :=
  [31, if isLong year then 29 else 28, 31, 30, 31, 30, 31, 31, 30, 31, 30, 31]

/-- The month and the day in it that so many days after the start of a year is. -/
def monthAndDay : (month : Nat) → (days : Nat) → (lengths : List Nat) → Nat × Nat
  | month, days, length :: rest =>
    if days < length || rest.isEmpty then (month, days + 1)
    else monthAndDay (month + 1) (days - length) rest
  | month, days, [] => (month, days + 1)

/-- The year and the day in it that so many days after the start of a year is, at most `years` years
later. -/
def yearAndDay : (years : Nat) → (year days : Nat) → Nat × Nat
  | 0, year, days => (year, days)
  | years + 1, year, days =>
    let length := if isLong year then 366 else 365
    if days < length then (year, days) else yearAndDay years (year + 1) (days - length)

/-- The date of a time. -/
def ofSeconds (seconds : Nat) : Date :=
  let days := seconds / 86400
  let time := seconds % 86400
  let (year, yearDay) := yearAndDay (days / 365 + 1) 1970 days
  let (month, day) := monthAndDay 1 yearDay (monthLengths year)
  ⟨year, month, day, time / 3600, time / 60 % 60, time % 60⟩

/-- How many days of its year come before a date. -/
def yearDay (d : Date) : Nat :=
  ((monthLengths d.year).take (d.month - 1)).foldl (· + ·) (d.day - 1)

/-! ## §2 Weeks -/

/-- The day of the week of a time, Sunday being none. -/
def weekday (seconds : Nat) : Nat := (seconds / 86400 + 4) % 7

/-- The week of the year, if weeks start with the day `first` of the week and those that started in
the year before count as none. -/
def weekOf (first yearDay weekday : Nat) : Nat := (yearDay + 7 - (weekday + 7 - first) % 7) / 7

/-- The year and the week in it, if weeks start on Mondays and belong to the year that has most of
their days. -/
def yearAndWeek (d : Date) (weekday : Nat) : Nat × Nat :=
  let fromMonday := (weekday + 6) % 7
  let thursday : Int := d.yearDay + 3 - fromMonday
  let length : Int := if isLong d.year then 366 else 365
  if thursday < 0 then
    let before : Int := if isLong (d.year - 1) then 366 else 365
    (d.year - 1, ((thursday + before) / 7).toNat + 1)
  else if length ≤ thursday then (d.year + 1, 1)
  else (d.year, (thursday / 7).toNat + 1)

/-- The names of the days. -/
def dayNames : List String :=
  ["Sunday", "Monday", "Tuesday", "Wednesday", "Thursday", "Friday", "Saturday"]

/-- The names of the months. -/
def monthNames : List String :=
  ["January", "February", "March", "April", "May", "June", "July", "August", "September", "October",
   "November", "December"]

/-! ## §3 Patterns -/

/-- What stands between a percent sign and its letter: with what is filled up, whether letters
change their case, and how wide the part is at least. -/
structure Directive where
  /-- What is filled up with; `-` for nothing. -/
  fill : Option Char := none
  upper : Bool := false
  swaps : Bool := false
  width : Option Nat := none
  /-- The letter that asks for another way of counting. -/
  other : Option Char := none
  colons : Nat := 0

/-- A part filled up on the left. -/
def filled (fill : Char) (width : Nat) (text : String) : String :=
  String.ofList (List.replicate (width - text.length) fill) ++ text

/-- A number of a pattern, which has so many digits. -/
def Directive.number (d : Directive) (fill : Char) (digits n : Nat) : String :=
  match d.fill.getD fill with
  | '-' => toString n
  | '_' => filled ' ' (d.width.getD digits) (toString n)
  | c => filled c (d.width.getD digits) (toString n)

/-- A word of a pattern. -/
def Directive.word (d : Directive) (text : String) : String :=
  let text := if d.upper then String.ofList (text.toList.map Char.toUpper) else text
  match d.fill.getD ' ' with
  | '-' => text
  | c => filled (if c = '0' then '0' else ' ') (d.width.getD 0) text

/-- The text of a part, if its letter stands for one; `pattern` shows patterns that other letters
stand for. -/
def part? (pattern : String → String) (seconds : Nat) (d : Directive) (letter : Char) :
    Option String :=
  let date := ofSeconds seconds
  let weekday := weekday seconds
  let name (names : List String) (n : Nat) (isShort : Bool) : String :=
    let name := (names[n]?).getD "?"
    let d := { d with upper := d.upper || d.swaps }
    d.word (if isShort then String.ofList (name.toList.take 3) else name)
  let half (isSmall : Bool) : String :=
    let text := if date.hour < 12 then "AM" else "PM"
    if isSmall || d.swaps then String.ofList (text.toList.map Char.toLower) else text
  let twelve := if date.hour % 12 = 0 then 12 else date.hour % 12
  match letter with
  | '%' => some (d.word "%")
  | 'a' => some (name dayNames weekday true)
  | 'A' => some (name dayNames weekday false)
  | 'b' | 'h' => some (name monthNames (date.month - 1) true)
  | 'B' => some (name monthNames (date.month - 1) false)
  | 'c' => some (d.word (pattern "%a %b %e %H:%M:%S %Y"))
  | 'C' => some (d.number '0' 2 (date.year / 100))
  | 'd' => some (d.number '0' 2 date.day)
  | 'D' | 'x' => some (d.word (pattern "%m/%d/%y"))
  | 'e' => some (d.number '_' 2 date.day)
  | 'F' => some (d.word (pattern "%Y-%m-%d"))
  | 'g' => some (d.number '0' 2 ((yearAndWeek date weekday).1 % 100))
  | 'G' => some (d.number '0' 4 (yearAndWeek date weekday).1)
  | 'H' => some (d.number '0' 2 date.hour)
  | 'I' => some (d.number '0' 2 twelve)
  | 'j' => some (d.number '0' 3 (date.yearDay + 1))
  | 'k' => some (d.number '_' 2 date.hour)
  | 'l' => some (d.number '_' 2 twelve)
  | 'm' => some (d.number '0' 2 date.month)
  | 'M' => some (d.number '0' 2 date.minute)
  | 'n' => some (d.word "\n")
  | 'N' => some (String.ofList (List.replicate (d.width.getD 9) '0'))
  | 'p' => some (d.word (half false))
  | 'P' => some (d.word (half true))
  | 'q' => some (d.number '0' 1 ((date.month + 2) / 3))
  | 'r' => some (d.word (pattern "%I:%M:%S %p"))
  | 'R' => some (d.word (pattern "%H:%M"))
  | 's' => some (d.number '0' 1 seconds)
  | 'S' => some (d.number '0' 2 date.second)
  | 't' => some (d.word "\t")
  | 'T' | 'X' => some (d.word (pattern "%H:%M:%S"))
  | 'u' => some (d.number '0' 1 ((weekday + 6) % 7 + 1))
  | 'U' => some (d.number '0' 2 (weekOf 0 date.yearDay weekday))
  | 'V' => some (d.number '0' 2 (yearAndWeek date weekday).2)
  | 'w' => some (d.number '0' 1 weekday)
  | 'W' => some (d.number '0' 2 (weekOf 1 date.yearDay weekday))
  | 'y' => some (d.number '0' 2 (date.year % 100))
  | 'Y' => some (d.number '0' 4 date.year)
  | 'z' => match d.colons with
    | 0 => some "+0000"
    | 1 => some "+00:00"
    | 2 => some "+00:00:00"
    | 3 => some "+00"
    | _ => none
  | 'Z' => some (if d.swaps then d.word "utc" else d.word "UTC")
  | _ => none

/-- Reads the marks after a percent sign. -/
def readMarks (d : Directive) : List Char → Directive × List Char
  | c :: cs =>
    match c with
    | '_' | '-' | '0' => readMarks { d with fill := some c } cs
    | '+' => readMarks { d with fill := some '0' } cs
    | '^' => readMarks { d with upper := true } cs
    | '#' => readMarks { d with swaps := true } cs
    | _ => (d, c :: cs)
  | [] => (d, [])

/-- Reads what stands between a percent sign and its letter. -/
def readDirective (cs : List Char) : Directive × List Char :=
  let (d, cs) := readMarks {} cs
  let (digits, cs) := cs.span Char.isDigit
  let width := if digits.isEmpty then none else some (Number.ofDigits 10 digits)
  let other := cs.head?.filter fun c => c = 'E' || c = 'O'
  let cs := if other.isSome then cs.tail else cs
  let (colons, rest) := cs.span (· = ':')
  if rest.head? = some 'z' then ({ d with width, other, colons := colons.length }, rest)
  else ({ d with width, other }, cs)

/-- Whether a letter may be asked for another way of counting. -/
def Directive.allows (d : Directive) (letter : Char) : Bool :=
  match d.other with
  | none => true
  | some 'E' => "cCxXyY".toList.contains letter
  | _ => "bBCdegGhHIjklmMNqsSuUVwWyY".toList.contains letter

/-- A time as a pattern shows it; `deep` is how deep patterns stand for patterns, and `fuel` bounds
the length of a pattern. -/
def render (seconds : Nat) : (deep : Nat) → (fuel : Nat) → List Char → String
  | _, 0, _ => ""
  | _, _, [] => ""
  | deep, fuel + 1, '%' :: cs =>
    let (d, rest) := readDirective cs
    let pattern (text : String) : String := match deep with
      | 0 => ""
      | deep + 1 => render seconds deep text.length text.toList
    match rest with
    | letter :: after =>
      match (part? pattern seconds d letter).filter fun _ => d.allows letter with
      | some text => text ++ render seconds deep fuel after
      | none =>
        let text := String.ofList ('%' :: cs.take (cs.length - after.length))
        d.word text ++ render seconds deep fuel after
    | [] => String.ofList ('%' :: cs)
  | deep, fuel + 1, c :: cs => String.singleton c ++ render seconds deep fuel cs

/-- A time as a pattern shows it. -/
def shown (pattern : String) (seconds : Nat) : String :=
  render seconds 2 (pattern.length + 1) pattern.toList

end Date

end Exemplar.Utility
