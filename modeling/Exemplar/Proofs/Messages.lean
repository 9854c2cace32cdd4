/-
Exemplar.Proofs.Messages — what can be told from a message.

Names, paths and the words of a tool stand in a message as they are. Nothing shows where they begin
or end, and they may look like any message there is. Three things can be told from the text all the
same. The kind of a failure: every message opens with words of its kind, and two letters of them are
enough. The exit code of a tool and all of its words, if it is known which example it failed on: a
code has no line break in it, the one behind it is the first that comes, and nothing follows the
words. And the verdict on an example that is known, whatever the texts are that were compared.

  §1 how messages open
  §2 exit codes
  §3 tools that failed
  §4 what is told
-/
import Exemplar.Proofs.Paths
import Exemplar.Proofs.ReportText
import Mathlib

namespace Exemplar

/-! ## §1 How messages open -/

namespace Failure

/-- The kinds of failures. -/
inductive Kind where
  | usage
  | unknownExample
  | registry
  | missingArtifact
  | spawn
  | access
  | compiler
  | runtimeUnavailable
  | runtime
  deriving DecidableEq, Repr

/-- The kind of a failure. -/
def kind : Failure → Kind
  | usage => .usage
  | unknownExample _ _ => .unknownExample
  | registry _ _ => .registry
  | missingArtifact _ _ => .missingArtifact
  | spawn _ _ => .spawn
  | access _ _ => .access
  | compiler _ _ _ => .compiler
  | runtimeUnavailable _ => .runtimeUnavailable
  | runtime _ _ _ => .runtime

namespace Kind

/-- The words that every message of a kind opens with, before any that vary. -/
def opening : Kind → String
  | usage => "usage: csynth-examples <example|all>"
  | unknownExample => "Example "
  | registry => "cannot read examples root "
  | missingArtifact => "build artifact for "
  | spawn => "failed to launch "
  | access => "I/O error on "
  | compiler => "compiler failed on "
  | runtimeUnavailable => "No "
  | runtime => "Error running "

/-- The kind whose messages have these as their first two letters. -/
def ofInitials? : List Char → Option Kind
  | ['u', 's'] => some usage
  | ['E', 'x'] => some unknownExample
  | ['c', 'a'] => some registry
  | ['b', 'u'] => some missingArtifact
  | ['f', 'a'] => some spawn
  | ['I', '/'] => some access
  | ['c', 'o'] => some compiler
  | ['N', 'o'] => some runtimeUnavailable
  | ['E', 'r'] => some runtime
  | _ => none

theorem two_le_length_opening (kind : Kind) : 2 ≤ kind.opening.toList.length := by
  cases kind <;> decide

theorem ofInitials?_opening (kind : Kind) :
    ofInitials? (kind.opening.toList.take 2) = some kind := by
  cases kind <;> decide

end Kind

theorem exists_message_eq (failure : Failure) :
    ∃ rest, failure.message = failure.kind.opening ++ rest := by
  cases failure with
  | usage => exact ⟨"", rfl⟩
  | registry root cause => exact ⟨root.text, rfl⟩
  | spawn program cause => exact ⟨program, rfl⟩
  | access path cause => exact ⟨path.text, rfl⟩
  | unknownExample name available | missingArtifact name path | compiler name code stderr
  | runtimeUnavailable program | runtime name code stderr =>
    -- behind the words that vary stand others that do not, and all of these are the rest
    unfold message
    simp only [String.append_assoc]
    exact ⟨_, rfl⟩

/-- The first two letters of a message tell the kind of its failure. -/
theorem ofInitials?_message (failure : Failure) :
    Kind.ofInitials? (failure.message.toList.take 2) = some failure.kind := by
  obtain ⟨rest, hmessage⟩ := exists_message_eq failure
  have hinitials : failure.message.toList.take 2 = failure.kind.opening.toList.take 2 := by
    rw [hmessage, String.toList_append]
    exact List.take_append_of_le_length failure.kind.two_le_length_opening
  rw [hinitials]
  exact Kind.ofInitials?_opening failure.kind

theorem kind_eq_of_message {failure failure' : Failure}
    (heq : failure.message = failure'.message) : failure.kind = failure'.kind := by
  have hkind := ofInitials?_message failure
  rw [heq, ofInitials?_message failure'] at hkind
  exact (Option.some.inj hkind).symm

end Failure

/-! ## §2 Exit codes -/

namespace Text

/-- An integer is written in digits, with a sign before them if it is negative. -/
theorem of_mem_toString_int {n : Int} {c : Char} (hc : c ∈ (toString n).toList) :
    c = '-' ∨ c.isDigit = true := by
  have hdigits {m : Nat} (hc : c ∈ m.repr.toList) : c.isDigit = true := by
    rw [Nat.repr_eq_ofList_toDigits, String.toList_ofList] at hc
    exact Nat.isDigit_of_mem_toDigits (by decide) (by decide) hc
  rw [Int.toString_eq_repr, Int.repr_eq_if] at hc
  split at hc
  · exact Or.inr (hdigits hc)
  · rw [String.toList_append, List.mem_append] at hc
    exact hc.imp (by simp) hdigits

/-- A line and the text below it are told from both together. -/
theorem line_inj {line line' text text' : String} (hline : '\n' ∉ line.toList)
    (hline' : '\n' ∉ line'.toList) (heq : line ++ "\n" ++ text = line' ++ "\n" ++ text') :
    line = line' ∧ text = text' := by
  have hlists : line.toList ++ '\n' :: text.toList = line'.toList ++ '\n' :: text'.toList := by
    simpa using congrArg String.toList heq
  have hparts := congrArg (splitList '\n') hlists
  rw [splitList_append, splitList_append, splitList_of_not_mem hline,
    splitList_of_not_mem hline'] at hparts
  obtain rfl := String.toList_injective (List.head_eq_of_cons_eq hparts)
  exact ⟨rfl, (String.append_right_inj _).mp heq⟩

end Text

namespace ExitCode

variable {code code' : ExitCode}

theorem newline_not_mem_shown (code : ExitCode) : '\n' ∉ code.shown.toList := by
  cases code with
  | none => decide
  | some n =>
    have hnumber : '\n' ∉ (toString n).toList := fun hmem =>
      (Text.of_mem_toString_int hmem).elim (by decide) (by decide)
    rw [shown, String.toList_append, String.toList_append, List.mem_append, List.mem_append]
    exact not_or.mpr ⟨not_or.mpr ⟨by decide, hnumber⟩, by decide⟩

theorem shown_ne_none (n : Int) : shown (some n) ≠ shown none := by
  intro heq
  have hfirst := congrArg (fun s => s.toList.head?) heq
  simp [shown] at hfirst

theorem shown_injective : Function.Injective shown := by
  intro code code' heq
  cases code with
  | none =>
    cases code' with
    | none => rfl
    | some n' => exact absurd heq.symm (shown_ne_none n')
  | some n =>
    cases code' with
    | none => exact absurd heq (shown_ne_none n)
    | some n' =>
      have hnumber : toString n = toString n' :=
        (String.append_right_inj _).mp ((String.append_left_inj _).mp heq)
      exact congrArg some (Int.repr_injective hnumber)

/-- An exit code that ends a line and the text below it are told from both together, whatever
stands in front of the code, if that is known. -/
theorem shown_line_inj {front text text' : String}
    (heq : front ++ code.shown ++ ")\n" ++ text = front ++ code'.shown ++ ")\n" ++ text') :
    code = code' ∧ text = text' := by
  have hline (code : ExitCode) : '\n' ∉ (code.shown ++ ")").toList := by
    rw [String.toList_append, List.mem_append]
    exact not_or.mpr ⟨code.newline_not_mem_shown, by decide⟩
  have hbreak (code : ExitCode) (text : String) :
      front ++ code.shown ++ ")\n" ++ text = front ++ (code.shown ++ ")" ++ "\n" ++ text) := by
    simp only [String.append_assoc]
    rfl
  rw [hbreak, hbreak, String.append_right_inj] at heq
  obtain ⟨hshown, htext⟩ := Text.line_inj (hline code) (hline code') heq
  exact ⟨shown_injective ((String.append_left_inj _).mp hshown), htext⟩

end ExitCode

/-! ## §3 Tools that failed -/

namespace Failure

/-- What is said of the messages on a tool that failed, for any exit code and any words of it. They
tell the code and the words, and the words end them. -/
structure TellsExit (failed : ExitCode → String → Failure) : Prop where
  told : ∀ code code' stderr stderr',
    (failed code stderr).message = (failed code' stderr').message →
      code = code' ∧ stderr = stderr'
  ends : ∀ code, ∃ front, ∀ stderr, (failed code stderr).message = front ++ stderr

/-- It is enough that the code ends a line and the words are what stands below. -/
theorem TellsExit.of_message {failed : ExitCode → String → Failure} (front : String)
    (hmessage : ∀ code stderr, (failed code stderr).message =
      front ++ code.shown ++ ")\n" ++ stderr) : TellsExit failed where
  told code code' stderr stderr' heq := by
    rw [hmessage, hmessage] at heq
    exact ExitCode.shown_line_inj heq
  ends code := ⟨front ++ code.shown ++ ")\n", hmessage code⟩

end Failure

/-! ## §4 What is told -/

/-- What is said of messages, and of reports on the example of some name. Two messages that are the
same are of failures of one kind. Those on the compiler that failed on the example tell its exit
code and all that it wrote as errors, and so do those on the script that failed. Two reports on the
example that are the same are of one verdict. -/
structure Unmistakable (name : String) : Prop where
  kind : ∀ failure failure' : Failure,
    failure.message = failure'.message → failure.kind = failure'.kind
  compiler : Failure.TellsExit (Failure.compiler name)
  runtime : Failure.TellsExit (Failure.runtime name)
  verdict : ∀ actual actual' expected expected',
    Report.outcome name (compare actual expected) =
        Report.outcome name (compare actual' expected') →
      (compare actual expected).verdict = (compare actual' expected').verdict

/-- Messages and reports are not mistaken for others, whatever stands in them. -/
theorem messages_unmistakable (name : String) : Unmistakable name where
  kind _ _ heq := Failure.kind_eq_of_message heq
  compiler := .of_message ("compiler failed on " ++ name ++ " (exit ") fun _ _ => rfl
  runtime := .of_message ("Error running " ++ name ++ ".lua! (exit ") fun _ _ => rfl
  verdict actual actual' expected expected' heq := by
    rw [Harness.outcome_compare, Harness.outcome_compare] at heq
    exact Harness.verdictBlock_inj heq

/-- The example has to be known: on different examples a tool may fail with the same message. -/
example : (Failure.compiler "a" none "b (exit None)\n").message =
    (Failure.compiler "a (exit None)\nb" none "").message := by
  decide

end Exemplar
