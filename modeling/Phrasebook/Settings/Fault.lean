import Phrasebook.File.Path
import Phrasebook.Toml.Fault

/-!
# Faults of settings

Why settings cannot be used: a file that is not TOML, a setting that is unknown, or a value that does
not suit its setting. Values are kept as they are shown in the wording.
-/

namespace Phrasebook

/-- What is wrong with settings. -/
inductive SettingsFault where
  | unknownNames (names : List Text)
  | pathNotText (name shown : Text)
  | indentNotInteger (shown : Text)
  | indentNotPositive (width : Int)
  | flagNotBoolean (shown : Text)
  | namespaceNotText (shown : Text)
  /-- An unsuitable value is or holds a whole number that is too long to be shown. -/
  | valueTooLong
  | notATable (path : FilePath)
  | invalidToml (path : FilePath) (reason : Toml.Reason) (place : Toml.Place)
deriving DecidableEq, Repr

/-- The fault of a width that is not positive. The width is shown, if it can be. -/
def SettingsFault.badWidth (width : Int) : SettingsFault :=
  if Numeral.isTooLong width then .valueTooLong else .indentNotPositive width

/-- The wording of a fault of settings. -/
def SettingsFault.message : SettingsFault → Text
  | .unknownNames names =>
    "Unknown [tool.i18ntree] setting(s): " ++ Text.joinWith ", " names
  | .pathNotText name shown => name ++ " must be a path string, got " ++ shown
  | .indentNotInteger shown => "indent_width must be an integer, got " ++ shown
  | .indentNotPositive width => "indent_width must be positive, got " ++ Numeral.integer width
  | .flagNotBoolean shown => "include_numeric must be a boolean, got " ++ shown
  | .namespaceNotText shown => "namespace must be a string, got " ++ shown
  | .valueTooLong => Numeral.tooLongMessage
  | .notATable path => "[tool.i18ntree] in " ++ path.display ++ " must be a table"
  | .invalidToml path reason place =>
    "Invalid TOML in " ++ path.display ++ ": " ++ Toml.describe reason place

end Phrasebook
