/-
Exemplar.Utility.Verdict — ending with a status, whatever the arguments are: `true` and `false`.
-/
import Exemplar.Utility.Basic

namespace Exemplar.Utility.Verdict

/-- Ends with a status, which it does also where it is asked about itself. -/
def run (manual : Manual) (status : Nat) (args : List String) : Tool Unit := do
  noteStatus status
  orTellAbout manual (fun _ => pure ()) args

end Exemplar.Utility.Verdict
