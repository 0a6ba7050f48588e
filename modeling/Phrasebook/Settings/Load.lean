import Phrasebook.Event
import Phrasebook.Failure
import Phrasebook.Settings.Basic
import Phrasebook.Toml.Reader

/-!
# Loading settings

Settings stand in the table `tool.i18ntree` of a TOML file, and their paths are seen from the directory
of that file. A file without the table has the default settings.
-/

namespace Phrasebook.Settings

/-- The failure of a file that is not TOML. -/
def tomlFailure (path : FilePath) : Toml.Fault → Failure
  | .malformed reason place => .settings (.invalidToml path reason place)
  | .numberTooLong digits => .numberTooLong digits
  | .tooDeep => .nestedTooDeep

/-- The value for the settings in the table of a file. -/
def toolTable? (table : Fields) : Except Failure (Option Datum) :=
  match table.get? "tool" with
  | none => .ok none
  | some (.record tools) => .ok (Fields.get? tools "i18ntree")
  | some value => .error (.toolsNotTable value.kindName)

/-- Loads the settings of a file. -/
def load [Host] (disk : Disk) (path : FilePath) : Reported Failure Settings := do
  let content ← Reported.ofExcept (Failure.atPath path) (disk.read path)
  let text ← Reported.ofExcept Failure.undecodable (Utf8.decode content)
  let table ← Reported.ofExcept (tomlFailure path) (Toml.read text)
  match ← toolTable? table with
  | none => do
    Reported.report (.settingsAbsent path.display)
    return initial
  | some (.record settings) => ofTable settings (some path.parent)
  | some _ => throw (.settings (.notATable path))

end Phrasebook.Settings
