import Phrasebook.Json.Writer

/-!
# Diagnostics

A diagnostic tells one finding: a code, a message and what is known about its place. It is written in
three ways. The full form has a line for the message and one for each further field that is not
empty; the brief form is the first of these lines without its severity; the third form is a JSON
record. Line breaks inside messages, key paths and hints are escaped, so that they add no lines.
-/

namespace Phrasebook

/-- The codes of findings. -/
inductive DiagnosticCode where
  | malformedSource
  | missingKey
  | invalidKey
  | incompleteTexts
  | emptyNode
  | sourceTooLarge
  | sharedNode
  | keyNotFound
  | textNotFound
  | notABranch
  | substitutionMissing
  | substitutionInvalid
  | unknownLanguage
  | invalidIdentifier
  | duplicateIdentifier
  | nestingTooDeep
  | invalidRegistry
deriving DecidableEq, Repr

namespace DiagnosticCode

/-- All codes. -/
def all : List DiagnosticCode :=
  [malformedSource, missingKey, invalidKey, incompleteTexts, emptyNode, sourceTooLarge,
    sharedNode, keyNotFound, textNotFound, notABranch, substitutionMissing, substitutionInvalid,
    unknownLanguage, invalidIdentifier, duplicateIdentifier, nestingTooDeep, invalidRegistry]

/-- The name of a code. -/
def name : DiagnosticCode → Text
  | malformedSource => "MALFORMED_SOURCE"
  | missingKey => "MISSING_KEY"
  | invalidKey => "INVALID_KEY"
  | incompleteTexts => "INCOMPLETE_TRANSLATION"
  | emptyNode => "EMPTY_NODE"
  | sourceTooLarge => "SOURCE_TOO_LARGE"
  | sharedNode => "SHARED_NODE"
  | keyNotFound => "KEY_NOT_FOUND"
  | textNotFound => "TEXT_NOT_FOUND"
  | notABranch => "NOT_A_BRANCH"
  | substitutionMissing => "SUBSTITUTION_MISSING"
  | substitutionInvalid => "SUBSTITUTION_INVALID"
  | unknownLanguage => "UNKNOWN_LANGUAGE"
  | invalidIdentifier => "INVALID_IDENTIFIER"
  | duplicateIdentifier => "DUPLICATE_IDENTIFIER"
  | nestingTooDeep => "NESTING_TOO_DEEP"
  | invalidRegistry => "INVALID_REGISTRY"

/-- The number of a code: from 1000 for trees, 2000 for look-ups, 3000 for key modules and 4000 for
configuration. -/
def number : DiagnosticCode → Nat
  | malformedSource => 1001
  | missingKey => 1002
  | invalidKey => 1003
  | incompleteTexts => 1004
  | emptyNode => 1005
  | sourceTooLarge => 1006
  | sharedNode => 1007
  | keyNotFound => 2001
  | textNotFound => 2002
  | notABranch => 2003
  | substitutionMissing => 2004
  | substitutionInvalid => 2005
  | unknownLanguage => 2006
  | invalidIdentifier => 3001
  | duplicateIdentifier => 3002
  | nestingTooDeep => 3003
  | invalidRegistry => 4001

/-- The code with a name. -/
def ofName? (name : Text) : Option DiagnosticCode := all.find? (·.name = name)

end DiagnosticCode

/-- How grave a finding is. -/
inductive Severity where
  | error
  | warning
  /-- Another degree, which is shown as an error. -/
  | other (name : Text)
deriving DecidableEq, Repr

namespace Severity

/-- The name of a severity. -/
def name : Severity → Text
  | error => "error"
  | warning => "warning"
  | other name => name

/-- The severity with a name. -/
def ofName (name : Text) : Severity :=
  if name = "error" then error else if name = "warning" then warning else other name

end Severity

/-- One finding. -/
structure Diagnostic where
  code : DiagnosticCode
  message : Text
  hint : Option Text := none
  keyPath : Option Text := none
  language : Option Text := none
  severity : Severity := .error
deriving DecidableEq, Repr

/-- The forms in which findings are written. -/
inductive OutputFormat where
  | full
  | brief
  | json
deriving DecidableEq, Repr

namespace OutputFormat

/-- The name by which a form is chosen. -/
def name : OutputFormat → Text
  | full => "rust"
  | brief => "simple"
  | json => "json"

/-- The form with a name. -/
def ofName? (name : Text) : Option OutputFormat :=
  [full, brief, json].find? (·.name = name)

end OutputFormat

/-- A form, and whether severities are coloured in it. -/
structure Formatter where
  form : OutputFormat := .full
  color : Bool := false

namespace Diagnostic

/-- Writes line breaks as escapes. -/
def escapeBreaks (text : Text) : Text :=
  (text.replace '\r' "\\r").replace '\n' "\\n"

/-- A severity with the colour for it, bold red or bold yellow. -/
def colored (severity : Severity) : Text :=
  match severity with
  | .warning => "\x1b[1;33m" ++ "warning" ++ "\x1b[0m"
  | _ => "\x1b[1;31m" ++ "error" ++ "\x1b[0m"

/-- The severity that the full form shows. -/
def shownSeverity (color : Bool) (severity : Severity) : Text :=
  if color then colored severity
  else
    match severity with
    | .warning => "warning"
    | _ => "error"

/-- A line for a field that is given and not empty. -/
def fieldLine (start : Text) (field : Option Text) : List Text :=
  match field with
  | none | some [] => []
  | some content => [start ++ content]

/-- The lines of the full form. -/
def fullLines (color : Bool) (diagnostic : Diagnostic) : List Text :=
  (shownSeverity color diagnostic.severity ++ "[" ++ diagnostic.code.name ++ "]: " ++
      escapeBreaks diagnostic.message) ::
    (fieldLine "  --> " (diagnostic.keyPath.map escapeBreaks) ++
      fieldLine "  = language: " diagnostic.language ++
      fieldLine "  = help: " (diagnostic.hint.map escapeBreaks))

/-- The full form. -/
def full (color : Bool) (diagnostic : Diagnostic) : Text :=
  Text.joinWith "\n" (fullLines color diagnostic)

/-- The brief form. -/
def brief (diagnostic : Diagnostic) : Text :=
  diagnostic.code.name ++ ": " ++ escapeBreaks diagnostic.message

/-- A field of the JSON record, if it is given and not empty. -/
def jsonField (name : Text) (field : Option Text) : Fields :=
  match field with
  | none | some [] => []
  | some content => [(name, .text content)]

/-- The record of the JSON form. -/
def record (diagnostic : Diagnostic) : Fields :=
  ([("code", .text diagnostic.code.name), ("code_value", .int diagnostic.code.number),
      ("message", .text diagnostic.message), ("severity", .text diagnostic.severity.name)] :
        Fields) ++
    jsonField "key_path" diagnostic.keyPath ++ jsonField "language" diagnostic.language ++
    jsonField "hint" diagnostic.hint

/-- Writes a diagnostic. -/
def format (formatter : Formatter) (diagnostic : Diagnostic) : Text :=
  match formatter.form with
  | .full => diagnostic.full formatter.color
  | .brief => diagnostic.brief
  | .json => Json.write .spaced (.record diagnostic.record)

/-- Writes diagnostics with a blank line between neighbours. -/
def formatAll (formatter : Formatter) (diagnostics : List Diagnostic) : Text :=
  Text.joinWith "\n\n" (diagnostics.map (format formatter))

end Diagnostic

end Phrasebook
