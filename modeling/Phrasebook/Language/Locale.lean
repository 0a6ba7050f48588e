import Phrasebook.Event
import Phrasebook.Host
import Phrasebook.Unicode.CaseMapping

/-!
# Locale codes

A locale code is a language, and perhaps a script, a territory and a variant, with dashes or
underscores between them. The host tells which name a language has for itself. The locale of the system
is the first usable one of the sources that may name it.
-/

namespace Phrasebook.Locale

/-- Writes an underscore for every dash. -/
def normalize (code : Text) : Text := code.replace '-' "_"

/-! ### Names of languages -/

/-- A name with the uppercase form of its first character. -/
def capitalized : Text → Text
  | [] => []
  | first :: rest => first.upper ++ rest

/-- The name to show for a locale code: the name that its language has for itself, or the code if there
is none. A locale that is not known is reported. -/
def displayName [Host] {ε : Type} (code : Text) : Reported ε Text :=
  match Host.localeName (normalize code) with
  | .error reason => do
    Reported.report (.localeUnknown code reason)
    return code
  | .ok name => return if name.isEmpty then code else capitalized name

/-! ### The locale of the system -/

/-- What a system tells about its locale. -/
structure System where
  /-- The locale that the system is set to, if it can tell. -/
  current : Option Text
  /-- The variables of the environment. -/
  environment : List (Text × Text)

/-- The code of a source, unless it is empty or names no language. -/
def usable? (source : Option Text) : Option Text :=
  match source with
  | none => none
  | some code =>
    if code.isEmpty ∨ code = "C" ∨ code = "POSIX" then none
    else some (normalize (Text.firstPiece '.' code))

/-- The variables that may name a locale. -/
def variableNames : List Text := ["LC_ALL", "LC_MESSAGES", "LANG"]

/-- The locale of the system: its current one, or the first usable one of its environment. -/
def System.locale? (system : System) : Option Text :=
  (system.current :: variableNames.map (system.environment.lookup ·)).findSome? usable?

end Phrasebook.Locale
