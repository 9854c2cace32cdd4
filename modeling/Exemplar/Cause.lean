/-
Exemplar.Cause — why an access to the system failed.
-/
import Exemplar.Errno

namespace Exemplar

/-- Why reading, writing, listing or launching something failed. -/
inductive Cause where
  /-- The operating system refused. -/
  | system (errno : Errno)
  /-- A file that should be text is not UTF-8. -/
  | malformedText
  /-- A path holds the character U+0000. -/
  | nulInPath
  /-- A program or an argument holds the character U+0000. -/
  | nulInCommand
  /-- The sink takes no more bytes. -/
  | sinkFull
  /-- Any other reason, in the words of whoever gave it. -/
  | other (text : String)
  deriving DecidableEq, Repr

/-- The text of a cause. -/
def Cause.message : Cause → String
  | .system errno => errno.message
  | .malformedText => "stream did not contain valid UTF-8"
  | .nulInPath => "file name contained an unexpected NUL byte"
  | .nulInCommand => "nul byte found in provided data"
  | .sinkFull => "sink full"
  | .other text => text

end Exemplar
