/-
Exemplar.Report — what is told about a verification, and where it goes.

  §1 counts of verdicts
  §2 the texts of a report
  §3 sinks: where the texts go, with room for all of them or for so many bytes
-/
import Exemplar.Comparison
import Exemplar.Path
import Exemplar.Text.Utf8

namespace Exemplar

/-! ## §1 Counts of verdicts -/

/-- How many examples had each verdict. -/
structure Summary where
  matched : Nat := 0
  mismatched : Nat := 0
  skipped : Nat := 0
  deriving DecidableEq, Repr

namespace Summary

/-- Counts one more verdict. -/
def record (summary : Summary) : Verdict → Summary
  | .matched => { summary with matched := summary.matched + 1 }
  | .mismatched => { summary with mismatched := summary.mismatched + 1 }
  | .skipped => { summary with skipped := summary.skipped + 1 }

/-- How many verdicts were counted. -/
def total (summary : Summary) : Nat :=
  summary.matched + summary.mismatched + summary.skipped

end Summary

/-! ## §2 The texts of a report -/

namespace Report

/-- Says where a script was written. -/
def scriptWritten (script : Path) : String :=
  "Output written to " ++ script.text ++ "\n"

/-- Says what the comparison of an example's output found. Both texts of a mismatch are given in
full. -/
def outcome (name : String) (comparison : Comparison) : String :=
  match comparison.verdict with
  | .matched => name ++ ".lua output matches expected output\n"
  | .mismatched =>
    name ++ ".lua output does not match expected output\nExpected:\n" ++
      comparison.expected.getD "" ++ "\nActual:\n" ++ comparison.actual ++ "\n"
  | .skipped => "No output.txt file found for " ++ name ++ ", won't compare output\n"

/-- Says how many examples had each verdict. -/
def summary (counts : Summary) : String :=
  toString counts.total ++ " examples: " ++ toString counts.matched ++ " matched, " ++
    toString counts.mismatched ++ " mismatched, " ++ toString counts.skipped ++ " skipped\n"

end Report

/-! ## §3 Sinks -/

/-- Where a report goes: what it has taken, and how many bytes it takes in all, if there is a
limit. -/
structure Sink where
  limit : Option Nat := none
  taken : Bytes := []
  deriving DecidableEq, Repr

namespace Sink

/-- The part of some bytes that a sink has room for. -/
def fitting (sink : Sink) (bytes : Bytes) : Bytes :=
  match sink.limit with
  | none => bytes
  | some limit => bytes.take (limit - sink.taken.length)

/-- A sink after it was given some bytes: it takes those it has room for. -/
def take (sink : Sink) (bytes : Bytes) : Sink :=
  { sink with taken := sink.taken ++ sink.fitting bytes }

/-- Whether a sink has room for all of some bytes. -/
def accepts (sink : Sink) (bytes : Bytes) : Bool :=
  match sink.limit with
  | none => true
  | some limit => sink.taken.length + bytes.length ≤ limit

end Sink

end Exemplar
