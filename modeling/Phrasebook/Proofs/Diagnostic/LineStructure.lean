import Mathlib.Data.List.Basic
import Phrasebook.Lookup.Resolver
import Phrasebook.Proofs.KeyModule.Lines
import Phrasebook.Proofs.Text.Replacing

/-!
# Lines of diagnostics

The brief form of a diagnostic is one line, and the full form has a line for the message and one for each
further field that is not empty. Breaks in messages, key paths and hints are written as escapes, so that
they add no lines. The code of a language is written as it is: each break in it ends a line, and what
follows the break reads as a line of the record. Of all problems only that of a text that is not there
tells a language.
-/

namespace Phrasebook

open KeyModule (InOneLine)

/-! ### Lines of a text -/

namespace Text

/-- Whether a code point ends a line. -/
def isBreak (point : CodePoint) : Bool := point = '\n' || point = '\r'

/-- The lines of a text, which its line feeds and carriage returns separate. -/
def physicalLines (text : Text) : List Text := List.splitOnP isBreak text

theorem inOneLine_iff {text : Text} : InOneLine text ↔ ∀ point ∈ text, isBreak point = false := by
  simp [InOneLine, isBreak]

/-- A break ends a line, whatever stands before it and after it. -/
theorem physicalLines_append_break {point : CodePoint} (ends : isBreak point) (first rest : Text) :
    physicalLines (first ++ point :: rest) = physicalLines first ++ physicalLines rest :=
  List.splitOnP_append_cons first rest ends

theorem physicalLines_joinWith {pieces : List Text} (given : pieces ≠ []) :
    physicalLines (joinWith "\n" pieces) = pieces.flatMap physicalLines := by
  have feed : Text.ofString "\n" = [.scalar '\n'] := by decide
  rw [feed, joinWith_eq]
  induction pieces with
  | nil => exact absurd rfl given
  | cons first rest ih =>
    cases rest with
    | nil => simp
    | cons second rest =>
      rw [List.intercalate_cons_cons, List.append_assoc, List.singleton_append,
        physicalLines_append_break (by decide), ih (by simp)]
      exact List.flatMap_cons.symm

theorem length_physicalLines (text : Text) :
    (physicalLines text).length = text.countP isBreak + 1 := by
  induction text with
  | nil => rfl
  | cons point rest ih =>
    rw [physicalLines, List.splitOnP_cons_eq_if_modifyHead, ← physicalLines]
    split
    · rename_i ends
      rw [List.length_cons, ih, List.countP_cons_of_pos ends]
    · rename_i inside
      rw [List.length_modifyHead, ih, List.countP_cons_of_neg inside]

theorem countP_isBreak_eq_zero {text : Text} : text.countP isBreak = 0 ↔ InOneLine text := by
  simp [List.countP_eq_zero, inOneLine_iff]

theorem physicalLines_of_inOneLine {text : Text} (flat : InOneLine text) :
    physicalLines text = [text] :=
  List.splitOnP_eq_singleton (inOneLine_iff.mp flat)

end Text

open Text (isBreak physicalLines)

namespace Diagnostic

variable {color : Bool} {diagnostic : Diagnostic} {field : Option Text} {start : Text}

/-! ### Fields without breaks -/

theorem inOneLine_escapeBreaks (text : Text) : InOneLine (escapeBreaks text) := by
  intro point written
  constructor
  · rintro rfl
    exact Text.not_mem_replace (by decide) written
  · -- A carriage return is in no escape, and none is left by the replacement that comes first.
    rintro rfl
    rcases Text.mem_replace.mp written with ⟨_, inEscape⟩ | ⟨left, _⟩
    · revert inEscape
      decide
    · exact Text.not_mem_replace (by decide) left

theorem escapeBreaks_eq_nil {text : Text} : escapeBreaks text = [] ↔ text = [] := by
  rw [escapeBreaks, Text.replace_eq_nil (by decide), Text.replace_eq_nil (by decide)]

theorem inOneLine_codeName (code : DiagnosticCode) : InOneLine code.name := by
  cases code <;> decide

theorem inOneLine_shownSeverity (color : Bool) (severity : Severity) :
    InOneLine (shownSeverity color severity) := by
  have error : InOneLine "error" := by decide
  have coloredError : InOneLine ("\x1b[1;31m" ++ "error" ++ "\x1b[0m") := by decide
  cases severity with
  | error => cases color <;> assumption
  | warning => cases color <;> decide
  | other name => cases color <;> assumption

theorem inOneLine_brief (diagnostic : Diagnostic) : InOneLine diagnostic.brief :=
  ((inOneLine_codeName _).append (by decide)).append (inOneLine_escapeBreaks _)

/-- The first line of the full form. -/
def headLine (color : Bool) (diagnostic : Diagnostic) : Text :=
  shownSeverity color diagnostic.severity ++ "[" ++ diagnostic.code.name ++ "]: " ++
    escapeBreaks diagnostic.message

theorem inOneLine_headLine (color : Bool) (diagnostic : Diagnostic) :
    InOneLine (diagnostic.headLine color) := by
  have severity := inOneLine_shownSeverity color diagnostic.severity
  have code := inOneLine_codeName diagnostic.code
  exact (((severity.append (by decide)).append code).append (by decide)).append
    (inOneLine_escapeBreaks _)

/-! ### Lines of a field -/

/-- Whether a field is given and not empty, so that it has a line. -/
def isShown (field : Option Text) : Bool := field.any (!·.isEmpty)

/-- How many breaks there are in the content of a field. -/
def breaksIn (field : Option Text) : Nat := (field.getD []).countP isBreak

theorem breaksIn_eq_zero : breaksIn field = 0 ↔ ∀ content ∈ field, InOneLine content := by
  cases field with
  | none => simp [breaksIn]
  | some content => simpa [breaksIn] using Text.countP_isBreak_eq_zero

theorem breaksIn_escaped (field : Option Text) : breaksIn (field.map escapeBreaks) = 0 := by
  rw [breaksIn_eq_zero]
  intro content given
  rcases Option.map_eq_some_iff.mp given with ⟨stored, _, rfl⟩
  exact inOneLine_escapeBreaks stored

theorem isShown_escaped (field : Option Text) : isShown (field.map escapeBreaks) = isShown field := by
  cases field with
  | none => rfl
  | some content =>
    have same : (escapeBreaks content).isEmpty = content.isEmpty := by
      rw [Bool.eq_iff_iff, List.isEmpty_iff, List.isEmpty_iff, escapeBreaks_eq_nil]
    simp [isShown, same]

theorem length_fieldLine (start : Text) (field : Option Text) :
    (fieldLine start field).length = (isShown field).toNat := by
  rcases field with _ | _ | ⟨point, rest⟩ <;> rfl

/-- The line of a field is one line, and one more for each break in the field. -/
theorem length_lines_fieldLine (flat : InOneLine start) (field : Option Text) :
    ((fieldLine start field).flatMap physicalLines).length = (isShown field).toNat + breaksIn field := by
  rcases field with _ | _ | ⟨point, rest⟩
  · rfl
  · rfl
  · have first : start.countP isBreak = 0 := Text.countP_isBreak_eq_zero.mpr flat
    have shown : (isShown (some (point :: rest))).toNat = 1 := rfl
    simp only [fieldLine, List.flatMap_singleton, Text.length_physicalLines, List.countP_append, first,
      shown, breaksIn, Option.getD_some]
    omega

/-! ### Lines of the full form -/

/-- The number of fields that have a line after that of the message. -/
def shownFields (diagnostic : Diagnostic) : Nat :=
  (isShown diagnostic.keyPath).toNat + (isShown diagnostic.language).toNat +
    (isShown diagnostic.hint).toNat

theorem fullLines_eq (color : Bool) (diagnostic : Diagnostic) :
    fullLines color diagnostic =
      diagnostic.headLine color :: (fieldLine "  --> " (diagnostic.keyPath.map escapeBreaks) ++
        fieldLine "  = language: " diagnostic.language ++
        fieldLine "  = help: " (diagnostic.hint.map escapeBreaks)) := rfl

theorem length_fullLines (color : Bool) (diagnostic : Diagnostic) :
    (fullLines color diagnostic).length = 1 + diagnostic.shownFields := by
  simp only [fullLines_eq, List.length_cons, List.length_append, length_fieldLine, isShown_escaped,
    shownFields]
  omega

/-- What was written as the lines of the full form is read as so many lines, and one more for each break in
the language. -/
theorem length_lines_full (color : Bool) (diagnostic : Diagnostic) :
    (physicalLines (diagnostic.full color)).length =
      1 + diagnostic.shownFields + breaksIn diagnostic.language := by
  have head := Text.physicalLines_of_inOneLine (inOneLine_headLine color diagnostic)
  rw [full, Text.physicalLines_joinWith (by simp [fullLines_eq]), fullLines_eq]
  simp only [List.flatMap_cons, List.flatMap_append, head, List.length_append, List.length_singleton]
  rw [length_lines_fieldLine (by decide), length_lines_fieldLine (by decide),
    length_lines_fieldLine (by decide)]
  simp only [isShown_escaped, breaksIn_escaped, shownFields]
  omega

theorem inOneLine_of_mem_fieldLine (flat : InOneLine start) (within : ∀ content ∈ field, InOneLine content)
    {line : Text} (written : line ∈ fieldLine start field) : InOneLine line := by
  rcases field with _ | _ | ⟨point, rest⟩
  · cases written
  · cases written
  · have same : line = start ++ point :: rest := List.mem_singleton.mp written
    rw [same]
    exact flat.append (within _ rfl)

theorem inOneLine_of_mem_fullLines (flat : ∀ language ∈ diagnostic.language, InOneLine language)
    {line : Text} (written : line ∈ fullLines color diagnostic) : InOneLine line := by
  have escaped : ∀ field : Option Text, ∀ content ∈ field.map escapeBreaks, InOneLine content :=
    fun field => breaksIn_eq_zero.mp (breaksIn_escaped field)
  simp only [fullLines_eq, List.mem_cons, List.mem_append, or_assoc] at written
  rcases written with rfl | inPath | inLanguage | inHint
  · exact inOneLine_headLine color diagnostic
  · exact inOneLine_of_mem_fieldLine (by decide) (escaped _) inPath
  · exact inOneLine_of_mem_fieldLine (by decide) flat inLanguage
  · exact inOneLine_of_mem_fieldLine (by decide) (escaped _) inHint

/-- The lines that were written are the lines that are read exactly if the language has no break. -/
theorem lines_full_eq_iff :
    physicalLines (diagnostic.full color) = fullLines color diagnostic ↔
      ∀ language ∈ diagnostic.language, InOneLine language := by
  constructor
  · intro same
    have length := length_lines_full color diagnostic
    rw [same, length_fullLines] at length
    exact breaksIn_eq_zero.mp (by omega)
  · intro flat
    have whole : ∀ line ∈ fullLines color diagnostic, physicalLines line = [line] := fun line written =>
      Text.physicalLines_of_inOneLine (inOneLine_of_mem_fullLines flat written)
    rw [full, Text.physicalLines_joinWith (by simp [fullLines_eq]), List.flatMap_congr whole,
      List.flatMap_singleton']

end Diagnostic

theorem Problem.language_mem_diagnostic {problem : Problem} {language : Text} :
    language ∈ problem.diagnostic.language ↔ ∃ keyPath, problem = .textNotFound keyPath language := by
  cases problem <;> simp [Problem.diagnostic, eq_comm]

/-- The message of a problem is read in the lines that were written, unless it is that of a text that is
not there in a language whose code has a break. -/
theorem Problem.lines_message_eq_iff {problem : Problem} :
    physicalLines problem.message = problem.diagnostic.fullLines false ↔
      ∀ keyPath language, problem = .textNotFound keyPath language → InOneLine language := by
  rw [Problem.message, Diagnostic.lines_full_eq_iff]
  simp only [Problem.language_mem_diagnostic]
  constructor
  · exact fun flat keyPath language same => flat language ⟨keyPath, same⟩
  · rintro flat language ⟨keyPath, same⟩
    exact flat keyPath language same

namespace Diagnostic

/-- The brief form is one line. The full form has a line for the message, one for each of the key path, the
language and the hint that is not empty, and one more for each break in the language. So it has the lines
that were written, and as many as there should be, exactly if the language has no break. -/
theorem lines_unless_break_in_language (color : Bool) (diagnostic : Diagnostic) :
    (physicalLines (diagnostic.format ⟨.brief, color⟩)).length = 1 ∧
    (physicalLines (diagnostic.format ⟨.full, color⟩)).length =
      1 + diagnostic.shownFields + breaksIn diagnostic.language ∧
    ((physicalLines (diagnostic.format ⟨.full, color⟩)).length = 1 + diagnostic.shownFields ↔
      ∀ language ∈ diagnostic.language, InOneLine language) ∧
    (physicalLines (diagnostic.format ⟨.full, color⟩) = fullLines color diagnostic ↔
      ∀ language ∈ diagnostic.language, InOneLine language) := by
  have full := length_lines_full color diagnostic
  refine ⟨?brief, full, ?counted, lines_full_eq_iff⟩
  case brief =>
    have single := Text.physicalLines_of_inOneLine (inOneLine_brief diagnostic)
    exact congrArg List.length single
  case counted =>
    rw [← breaksIn_eq_zero]
    change (physicalLines (diagnostic.full color)).length = _ ↔ _
    omega

/-- The code of a language with a break, and after it what looks like another diagnostic. -/
def forgingCode : Text := "en\nerror[KEY_NOT_FOUND]: Key 'menu' not found"

/-- A look-up with such a code ends with a problem whose diagnostic has one line more than it should. -/
theorem language_adds_line :
    ((Resolver.make (.make [.branch "menu" .empty []] [] "0" []) none true none).resolve forgingCode "menu"
        none).result = .error (.problem (.textNotFound "menu" forgingCode)) ∧
      (physicalLines ((Problem.textNotFound "menu" forgingCode).diagnostic.format ⟨.full, false⟩)).length = 5 ∧
      (Problem.textNotFound "menu" forgingCode).diagnostic.shownFields = 3 ∧
      ¬∀ (color : Bool) (diagnostic : Diagnostic),
        (physicalLines (diagnostic.format ⟨.full, color⟩)).length = 1 + diagnostic.shownFields := by
  have five : (physicalLines
      ((Problem.textNotFound "menu" forgingCode).diagnostic.format ⟨.full, false⟩)).length = 5 := by
    decide +kernel
  have three : (Problem.textNotFound "menu" forgingCode).diagnostic.shownFields = 3 := by
    decide +kernel
  refine ⟨rfl, five, three, ?_⟩
  intro claimed
  have four := claimed false (Problem.textNotFound "menu" forgingCode).diagnostic
  rw [five, three] at four
  cases four

end Diagnostic

end Phrasebook
