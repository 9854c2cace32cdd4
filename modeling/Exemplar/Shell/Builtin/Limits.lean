/-
Exemplar.Shell.Builtin.Limits — what processes may do: `umask` and `ulimit`.

  §1 the rights of new files
  §2 limits
-/
import Exemplar.Shell.Builtin.Basic

namespace Exemplar.Shell.Limits

/-! ## §1 The rights of new files -/

/-- The digits of a mask. -/
def maskText (mask : Nat) : String :=
  String.ofList ['0', Nat.digitChar (mask / 64 % 8), Nat.digitChar (mask / 8 % 8),
    Nat.digitChar (mask % 8)]

/-- The rights that a mask leaves, in letters. -/
def rightsText (mask : Nat) : String :=
  let rights (n : Nat) : String :=
    (if n / 4 % 2 = 0 then "r" else "") ++ (if n / 2 % 2 = 0 then "w" else "") ++
      (if n % 2 = 0 then "x" else "")
  "u=" ++ rights (mask / 64) ++ ",g=" ++ rights (mask / 8) ++ ",o=" ++ rights mask

/-- The lowest bits of those whose rights a letter means. -/
def places : List (Char × Nat) := [('a', 0o111), ('u', 0o100), ('g', 0o010), ('o', 0o001)]

/-- The three bits that a letter stands for, given the rights before. -/
def bitsOf? (old : Nat) (letter : Char) : Option Nat :=
  match letter with
  | 'r' => some 4
  | 'w' => some 2
  | 'x' => some 1
  | 'u' => some (old / 64 % 8)
  | 'g' => some (old / 8 % 8)
  | 'o' => some (old % 8)
  | 'X' => some (if old &&& 0o111 = 0 then 0 else 1)
  | 's' => some 0
  | _ => none

/-- Changes rights as clauses in letters say, one after the other: whose rights, how and which.
After a comma it is said anew whose; else an action is for the same ones as the action before. The
letters for rights that are copied mean those before all clauses. Gives what is left where a text is
wrong too. -/
def changeRights (old : Nat) :
    (fuel : Nat) → (who : Nat) → (rights : Nat) → List Char → Nat × List Char
  | 0, _, rights, cs => (rights, cs)
  | _, _, rights, [] => (rights, [])
  | fuel + 1, who, rights, cs =>
    let (letters, rest) := cs.span fun c => (places.lookup c).isSome
    let who := letters.foldl (fun who c => who ||| (places.lookup c).getD 0) who
    let who := if who = 0 then 0o111 else who
    match rest with
    | [] => (rights, [])
    | op :: rest =>
      if op ≠ '=' && op ≠ '+' && op ≠ '-' then (rights, op :: rest)
      else
        let (letters, rest) := rest.span fun c => (bitsOf? old c).isSome
        let chosen := who * letters.foldl (fun bits c => bits ||| (bitsOf? old c).getD 0) 0
        let rights :=
          if op = '+' then rights ||| chosen
          else if op = '-' then rights &&& (0o777 ^^^ chosen)
          else (rights &&& (0o777 ^^^ (who * 7))) ||| chosen
        match rest with
        | ',' :: rest => changeRights old fuel 0 rights rest
        | c :: rest =>
          if c = '=' || c = '+' || c = '-' then changeRights old fuel who rights (c :: rest)
          else (rights, c :: rest)
        | [] => (rights, [])

/-- Changes the rights that new files do not get, or writes them. -/
def umask (args : List String) : Act Nat := do
  let (options, args) ← readOptions { bare := ['S'] } args
  let mask ← task (Task.view fun pid k => k.maskOf pid)
  let setMask (mask : Nat) : Act Nat := do
    task (Task.act fun pid k => ((), k.update pid fun e => { e with mask }))
    return 0
  match args with
  | [] =>
    say ((if options.isEmpty then maskText mask else rightsText mask) ++ "\n")
    return 0
  | mode :: _ =>
    let cs := mode.toList
    if mode.front.isDigit then
      if !cs.all fun c => '0' ≤ c && c ≤ '7' then fail ("Illegal number: " ++ mode)
      setMask (Number.ofDigits 8 cs % 512)
    else
      match changeRights (0o777 ^^^ mask) cs.length 0 (0o777 ^^^ mask) cs with
      | (rights, []) => setMask (0o777 ^^^ rights)
      | _ => fail ("Illegal mode: " ++ mode)

/-! ## §2 Limits -/

/-- What a limit is on: its letter, its name, and how much one is when it is told. -/
structure Known where
  letter : Char
  name : String
  resource : Resource
  unit : Nat := 1

/-- All limits. -/
def knownLimits : List Known :=
  [⟨'t', "time(seconds)", .time, 1⟩, ⟨'f', "file(blocks)", .fileSize, 512⟩,
   ⟨'d', "data(kbytes)", .data, 1024⟩, ⟨'s', "stack(kbytes)", .stack, 1024⟩,
   ⟨'c', "coredump(blocks)", .coreSize, 512⟩, ⟨'m', "memory(kbytes)", .memory, 1024⟩,
   ⟨'l', "locked memory(kbytes)", .lockedMemory, 1024⟩, ⟨'p', "process", .processes, 1⟩,
   ⟨'n', "nofiles", .descriptors, 1⟩, ⟨'v', "vmemory(kbytes)", .space, 1024⟩,
   ⟨'w', "locks", .locks, 1⟩, ⟨'r', "rtprio", .priority, 1⟩]

/-- The text of a limit in its unit. -/
def limitText (unit : Nat) : Option Nat → String
  | none => "unlimited"
  | some n => toString (n / unit)

/-- A word with blanks after it, so that words stand below each other. -/
def inColumn (word : String) : String :=
  word ++ String.ofList (List.replicate (20 - word.length) ' ') ++ " "

/-- The limit that a text writes. The greatest number of 64 bits means that there is none. -/
def readLimit (unit : Nat) (text : String) : Act (Option Nat) := do
  if text = "unlimited" then return none
  if !text.toList.all Char.isDigit then fail "bad number"
  let all := 0x10000000000000000
  let n := Number.ofDigits 10 text.toList * unit % all
  return if n + 1 = all then none else some n

/-- Changes limits, or writes them. Of the two limits on a thing the one that counts is written, and
both are changed, if options do not name one. -/
def ulimit (args : List String) : Act Nat := do
  let letters := knownLimits.map (·.letter)
  let (options, args) ← readOptions { bare := 'H' :: 'S' :: 'a' :: letters } args
  let letters := options.map (·.1)
  let which := (letters.filter fun c => c = 'H' || c = 'S').getLast?
  let wanted := (letters.filter fun c => !"HSa".toList.contains c).getLast?.getD 'f'
  let shown (limit : Limit) : Option Nat := if which = some 'H' then limit.hard else limit.soft
  let limits ← task (Task.view fun pid k => k.limitsOf pid)
  let isAll := letters.contains 'a'
  match args, knownLimits.find? (·.letter = wanted) with
  | text :: more, some known =>
    if isAll || !more.isEmpty then fail "too many arguments"
    let value ← readLimit known.unit text
    let old := limits.of known.resource
    let limit : Limit := {
      soft := if which = some 'H' then old.soft else value
      hard := if which = some 'S' then old.hard else value }
    match Limit.refusal? old limit with
    | some errno => fail ("error setting limit (" ++ errno.text ++ ")")
    | none =>
      task (Task.act fun pid k => ((), k.update pid fun e =>
        { e with limits := (known.resource, limit) :: e.limits }))
  | _, known? =>
    if isAll then
      for known in knownLimits do
        say (inColumn known.name ++ limitText known.unit (shown (limits.of known.resource)) ++ "\n")
    else match known? with
      | some known => say (limitText known.unit (shown (limits.of known.resource)) ++ "\n")
      | none => pure ()
  return 0

end Exemplar.Shell.Limits
