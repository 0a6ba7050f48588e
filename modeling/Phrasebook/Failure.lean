import Phrasebook.File.Disk
import Phrasebook.Host
import Phrasebook.Problem
import Phrasebook.Settings.Fault

/-!
# Failures

Everything that can end an operation: the problems that have a diagnostic, and the failures of files,
numbers, settings and arguments that have only a wording.
-/

namespace Phrasebook

/-- What the languages of a registry are needed for. -/
inductive RegistryUse where
  | codes
  | lookup
  | localeMatching
  | fallback
deriving DecidableEq, Repr

/-- The name of a use. -/
def RegistryUse.name : RegistryUse → Text
  | .codes => "codes"
  | .lookup => "get"
  | .localeMatching => "match_locale"
  | .fallback => "fallback_language"

/-- An argument for which nothing was given. -/
inductive EmptyArgument where
  | languages
  | form
  | rootClass
  | assignment
  | key
deriving DecidableEq, Repr

/-- The wording for an empty argument. -/
def EmptyArgument.message : EmptyArgument → Text
  | .languages => "expected str, bytes or os.PathLike object, not list"
  | .form => "[] is not a valid OutputFormat"
  | .rootClass => "'list' object has no attribute 'isidentifier'"
  | .assignment => "'list' object has no attribute 'partition'"
  | .key => "'list' object has no attribute 'split'"

/-- Why a stream of the program does not take a line. -/
inductive StreamFault where
  /-- Its device fails. -/
  | device (reason : Text)
  /-- Its encoding lacks a character of the line. -/
  | encoding (reason : Text)
deriving DecidableEq, Repr

/-- The wording of a fault of a stream. -/
def StreamFault.reason : StreamFault → Text
  | .device reason => reason
  | .encoding reason => reason

/-- Why an operation gives no answer. -/
inductive Failure where
  | problem (problem : Problem)
  /-- A whole number in a document has more digits than can be converted. -/
  | numberTooLong (digits : Nat)
  /-- A document is nested deeper than its reader follows, or a value deeper than its display does. -/
  | nestedTooDeep
  /-- A whole number in a message has more digits than can be written. -/
  | numberUnwritable
  /-- A count of characters is too large to be one. -/
  | countTooLarge
  /-- A number does not fit its format code. -/
  | overflow (overflow : Template.Overflow)
  /-- A file is not UTF-8. -/
  | undecodable (fault : Utf8.Fault)
  /-- A text to be written has a surrogate, the first of some in a row. -/
  | unencodable (first : CodePoint) (position count : Nat)
  | file (fault : FileFault) (paths : List FilePath)
  /-- A fault of the file that was to replace another one. -/
  | temporaryFile (fault : FileFault) (paths : List FilePath)
  | stream (fault : StreamFault)
  | settings (fault : SettingsFault)
  /-- The table of all tools is no table. -/
  | toolsNotTable (kindName : Text)
  /-- A child of a node is no node. -/
  | childNotNode (parentKey kindName : Text)
  /-- A root of a tree is no node. -/
  | rootNotNode (kindName : Text)
  /-- There is no registry where one is needed. -/
  | noRegistry (use : RegistryUse)
  /-- Nothing was given for an argument that is needed. -/
  | emptyArgument (argument : EmptyArgument)
deriving DecidableEq, Repr

namespace Failure

/-- The wording of a failure. -/
def message : Failure → Text
  | .problem cause => cause.message
  | .numberTooLong digits =>
    "Exceeds the limit (4300 digits) for integer string conversion: value has " ++
      Numeral.natural digits ++
      " digits; use sys.set_int_max_str_digits() to increase the limit"
  | .nestedTooDeep => "maximum recursion depth exceeded"
  | .numberUnwritable => Numeral.tooLongMessage
  | .countTooLarge => "cannot fit 'int' into an index-sized integer"
  | .overflow cause => cause.message
  | .undecodable fault => fault.message
  | .unencodable first position count => Utf8.unencodableMessage first position count
  | .file fault paths => fault.describe paths
  | .temporaryFile fault paths => fault.describe paths
  | .stream fault => fault.reason
  | .settings fault => fault.message
  | .toolsNotTable kindName => "'" ++ kindName ++ "' object has no attribute 'get'"
  | .childNotNode parentKey kindName =>
    "Children of '" ++ parentKey ++ "' must be ResourceNode, got " ++ kindName
  | .rootNotNode kindName => "'" ++ kindName ++ "' object has no attribute 'key'"
  | .noRegistry use => "'NoneType' object has no attribute '" ++ use.name ++ "'"
  | .emptyArgument argument => argument.message

/-- The failure of a file operation at a path. -/
def atPath (path : FilePath) (fault : FileFault) : Failure := .file fault [path]

/-- The failure of an unusable key. It is shown as the value it is, if it can be. -/
def badKey [Host] (key : Datum) (parent : Option Text) : Failure :=
  match key.obstacle? Host.keyDepth with
  | some .tooDeep => .nestedTooDeep
  | some .longInteger => .numberUnwritable
  | none => .problem (.invalidKey key.display parent)

/-- The failure of a number that no language has. It is shown, if it can be. -/
def unknownId (id : Int) (known : List Text) : Failure :=
  if Numeral.isTooLong id then .numberUnwritable
  else .problem (.unknownLanguage (Numeral.integer id) known)

/-- The failure of languages with a fault. The number of a language is shown, if it can be. -/
def ofRegistryFault (fault : RegistryFault) : Failure :=
  if fault.id?.any Numeral.isTooLong then .numberUnwritable else .problem (.invalidRegistry fault)

end Failure

end Phrasebook
