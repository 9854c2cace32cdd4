/-
Exemplar.Shell.Prompt — the texts that a shell writes before it reads or tells a command.
-/
import Exemplar.Shell.Engine

namespace Exemplar.Shell

/-- The text that the variable of a name asks for: what it holds is expanded, but stands there as it
is if that goes wrong. If the end of a script was read last, it is read again where a command in the
text begins. -/
def promptText (engine : Engine) (name : String) : Act String := do
  let s ← get
  let prompt := s.valueOf name
  let reader : Reader := { chars := prompt.toList, aliases := s.aliases, pushedBack := s.endsText }
  match Parser.template.run reader with
  | .error fault =>
    modify fun s => { s with endsText := false }
    match fault with
    | .malformed line message =>
      modify fun s => { s with line }
      report message
    | .unfinished => pure ()
    return prompt
  | .ok (word, after) =>
    modify fun s => { s with endsText := after.pushedBack }
    match ← attempt (expandText (capture engine) { quoted := true } word) with
    | .ok text => return text
    | .error .failed => return prompt
    | .error halt => throw halt

/-- Writes the text that the variable of a name asks for so many times. -/
def showPrompt (engine : Engine) (name : String) : (times : Nat) → Act Unit
  | 0 => pure ()
  | times + 1 => do
    complain (← promptText engine name)
    showPrompt engine name times

end Exemplar.Shell
