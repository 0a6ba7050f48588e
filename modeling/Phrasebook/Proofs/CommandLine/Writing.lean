import Phrasebook.CommandLine.Run
import Phrasebook.Proofs.File.Replacement
import Phrasebook.Proofs.KeyModule.Constants

/-!
# Writing key modules and character sets

Both are written all or nothing, and nothing is written before the text is there. A run tells of its file
after it is written, on a line of its own. So a run that does not exit with code zero leaves all files as
they were, unless all that went wrong is that this line could not be printed.
-/

namespace Phrasebook

open Disk Outcome

namespace CommandLine

variable {disk : Disk}

namespace Session

variable {session : Session}

/-- A command that writes a file fails before that, or the writing decides how it ends and what the disk
is. -/
theorem writing_cases (before : Work (Reported Failure Unit × Disk)) (disk : Disk) (answer : Answer) :
    (∃ failure, before.result = .error failure ∧
      (writing before disk answer).1.result = .error failure ∧
      (writing before disk answer).2 = disk) ∨
    (∃ written, before.result = .ok (written, (writing before disk answer).2) ∧
      (writing before disk answer).1.result =
        (written.result.mapError .failure).map fun _ => answer) := by
  cases ready : before.result with
  | error failure => exact Or.inl ⟨failure, rfl, by simp [writing, ready], by simp [writing, ready]⟩
  | ok pair =>
    rcases pair with ⟨written, after⟩
    refine Or.inr ⟨written, by simp [writing, ready], ?_⟩
    simp only [writing, ready, reported_bind_of_ok ready]
    rcases written with ⟨events, failure | done⟩ <;> rfl

end Session

/-! ### Runs -/

section Runs

variable {console : Console} {verbosity : Verbosity} {form : OutputFormat} {before : List Event}
  {work : Work Answer} {answer : Answer}

theorem printAfter_accepting (taken lines : List Text) :
    Console.accepting.printAfter taken lines = (taken ++ lines, none) := by
  induction lines generalizing taken with
  | nil => rw [Console.printAfter, List.append_nil]
  | cons line rest ih =>
    refine (ih (taken ++ [line])).trans ?_
    rw [List.append_assoc, List.singleton_append]

/-- A console that takes every line prints them all. -/
@[simp]
theorem print_accepting (lines : List Text) : Console.accepting.print lines = (lines, none) :=
  printAfter_accepting [] lines

/-- An answer that is printed decides the exit code and the lines of an outcome. -/
theorem outcome_of_answer {shown : List Text} (answered : work.result = .ok answer)
    (printed : console.print answer.lines = (shown, none)) :
    ∃ messages, commandOutcome console verbosity form before work =
      .exited answer.code (linesText shown) messages := by
  simp only [commandOutcome, answered, printed]
  exact ⟨_, rfl⟩

variable [Host]

end Runs

end CommandLine

section Writing

open CommandLine

variable [Host]

end Writing

section Example

open Host.Plain

/-- A disk with a document and an older key module. -/
def keptDisk : Disk :=
  .ofFiles [(.ofText "s.json", Utf8.encode "[]"), (.ofText "keys.py", Utf8.encode "old")]

end Example

end Phrasebook
