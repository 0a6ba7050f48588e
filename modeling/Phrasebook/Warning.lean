import Phrasebook.Diagnostic

/-!
# Warnings

Findings that do not stop the reading of a document. They are kept with the tree that was read.
-/

namespace Phrasebook

/-- The kinds of warnings. -/
inductive WarningCode where
  /-- A key is its own title case and clashes with the class name made from it. -/
  | titleCaseKey
  /-- Two siblings share a key; only the first one can be addressed. -/
  | duplicateKey
deriving DecidableEq, Repr

namespace WarningCode

/-- The name of a kind. -/
def name : WarningCode → Text
  | titleCaseKey => "title-case-key"
  | duplicateKey => "duplicate-key"

/-- The kind with a name. -/
def ofName? (name : Text) : Option WarningCode :=
  [titleCaseKey, duplicateKey].find? (·.name = name)

end WarningCode

/-- A warning about the node at a key path. -/
structure Warning where
  code : WarningCode
  message : Text
  keyPath : Text
deriving DecidableEq, Repr

namespace Warning

/-- The warning for a key that is its own title case. -/
def titleCase (key keyPath : Text) : Warning :=
  ⟨.titleCaseKey, "Key '" ++ key ++ "' equals its TitleCase form; 'camelCase' is recommended",
    keyPath⟩

/-- The warning for a key that an earlier sibling has. -/
def duplicate (key keyPath : Text) : Warning :=
  ⟨.duplicateKey, "Duplicate key '" ++ key ++ "'; only the first one is addressable", keyPath⟩

/-- Writes a warning. -/
def format (form : OutputFormat) (warning : Warning) : Text :=
  match form with
  | .full =>
    "warning[" ++ warning.code.name ++ "] at '" ++ warning.keyPath ++ "': " ++ warning.message
  | .brief => warning.code.name ++ ": " ++ warning.message
  | .json =>
    Json.write .spaced (.record
      [("code", .text warning.code.name), ("message", .text warning.message),
        ("severity", .text "warning"), ("key_path", .text warning.keyPath)])

end Warning

end Phrasebook
