/-
Exemplar.Utility.Sleep — waiting for some time: `sleep`.
-/
import Exemplar.Number.Binary
import Exemplar.Utility.Basic

namespace Exemplar.Utility.Sleep

/-- The seconds in a unit. -/
def unit? : List Char → Option Nat
  | [] => some 1
  | ['s'] => some 1
  | ['m'] => some 60
  | ['h'] => some 3600
  | ['d'] => some 86400
  | _ => none

/-- The longest time that is waited for, in microseconds. -/
def longest : Nat := 1000000000000000000

/-- The time that an argument writes, in microseconds. -/
def timeOf? (arg : String) : Option Nat :=
  match Number.Format.double.scan arg.toList with
  | none => none
  | some (value, _, rest) =>
    match unit? rest, value with
    | some unit, .finite negative size exponent =>
      if negative && size ≠ 0 then none
      else
        let (num, den) := Number.scaleFraction (size * unit * 1000000) 1 exponent
        some (min ((num + den - 1) / den) longest)
    | some _, .infinite false => some longest
    | _, _ => none

/-- Waits for as long as all arguments say together. -/
def run (args : List String) : Tool Unit := do
  let operands := (← parse { manual? := some .sleep } args).operands
  if args.isEmpty then refuse "missing operand"
  let times := operands.map fun arg => (arg, timeOf? arg)
  let wrong := times.filter (·.2.isNone)
  for (arg, _) in wrong do grumble ("invalid time interval " ++ (← shownArgument arg))
  if !wrong.isEmpty then giveUp
  task (Task.sleep ((times.filterMap (·.2)).foldl (· + ·) 0))

end Exemplar.Utility.Sleep
