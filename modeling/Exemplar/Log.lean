/-
Exemplar.Log — records of what happens in a run.
-/

namespace Exemplar

namespace Log

/-- How important a record is, the most important first. -/
inductive Level where
  | error
  | warn
  | info
  | debug
  | trace
  deriving DecidableEq, Repr

/-- The rank of a level: the less, the more important. -/
def Level.rank : Level → Nat
  | .error => 1
  | .warn => 2
  | .info => 3
  | .debug => 4
  | .trace => 5

/-- The part of the program that a record comes from. -/
inductive Source where
  | driver
  | pipeline
  | process
  deriving DecidableEq, Repr

/-- The name of a source, which filters match against. -/
def Source.target : Source → String
  | .driver => "csynth_examples::driver"
  | .pipeline => "csynth_examples::pipeline"
  | .process => "csynth_examples::process"

/-- One record. -/
structure Record where
  level : Level
  source : Source
  message : String
  deriving DecidableEq, Repr

end Log

end Exemplar
