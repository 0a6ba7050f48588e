import Phrasebook.Host
import Phrasebook.Text.Quoted
import Phrasebook.Unicode.CaseMapping
import Phrasebook.Unicode.Category
import Phrasebook.Unicode.Digit

/-!
# Known locales

The host that the program is run on when it is built on its own, with a small list in the place of a
database of locales. A locale code is a language, and perhaps a script, a territory and a variant. Nothing
in the theory depends on what is here: it holds for every host.
-/

namespace Phrasebook.Locale

/-! ### The parts of a code -/

/-- The subtags of a locale code. -/
structure Subtags where
  language : Text
  script : Option Text
  territory : Option Text
  variant : Option Text
  modifier : Text
deriving DecidableEq, Repr

/-- The code of some subtags. -/
def Subtags.code (subtags : Subtags) : Text :=
  let parts :=
    subtags.language ::
      (subtags.script.toList ++ subtags.territory.toList ++ subtags.variant.toList)
  let modifier : Text := if subtags.modifier.isEmpty then [] else "@" ++ subtags.modifier
  Text.joinWith "_" parts ++ modifier

/-- Why a code has no subtags. -/
inductive CodeFault where
  | empty
  | notLetters (language : Text)
  | notACode (code : Text)
deriving DecidableEq, Repr

/-- The wording of a fault of a code. -/
def CodeFault.message : CodeFault → Text
  | .empty =>
    "Empty locale identifier value: ''\n\nIf you didn't explicitly pass an empty value to a " ++
      "Babel function, this could be caused by there being no suitable locale environment " ++
      "variables for the API you tried to use."
  | .notLetters language => "expected only letters, got " ++ Quoted.encode language
  | .notACode code => Quoted.encode code ++ " is not a valid locale identifier"

/-- The uppercase form of a text. -/
def upper (text : Text) : Text := text.flatMap CodePoint.upper

/-- Takes the script from the front of the parts: four letters. -/
def takeScript (parts : List Text) : Option Text × List Text :=
  match parts with
  | part :: rest =>
    if part.length = 4 && part.all CodePoint.isLetter then (some (Text.title part), rest)
    else (none, parts)
  | [] => (none, [])

/-- Takes the territory from the front of the parts: two letters or three digits. -/
def takeTerritory (parts : List Text) : Option Text × List Text :=
  match parts with
  | [] => (none, [])
  | part :: rest =>
    if part.length = 2 && part.all CodePoint.isLetter then (some (upper part), rest)
    else if part.length = 3 && part.all CodePoint.isDigit then (some part, rest)
    else (none, parts)

/-- Takes the variant from the end of the parts, if the first of them could be one: four characters
from a digit on, or five and more from a letter on. -/
def takeVariant (parts : List Text) : Option Text × List Text :=
  match parts with
  | (first :: others) :: rest =>
    if (others.length = 3 && first.isDigit) || (4 ≤ others.length && first.isLetter) then
      (some (upper (rest.getLastD (first :: others))), parts.dropLast)
    else (none, parts)
  | _ => (none, parts)

/-- Reads the subtags of a normalized code. What follows a period is left out, and what follows an
at sign is a modifier. -/
def subtags (code : Text) : Except CodeFault Subtags := do
  if code.isEmpty then throw .empty
  let (code, modifier) := Text.cut '@' code
  let code := Text.firstPiece '.' code
  let parts := code.splitOn '_'
  let language := Text.lower (parts.headD [])
  unless !language.isEmpty && language.all CodePoint.isAsciiLetter do throw (.notLetters language)
  let (script, parts) := takeScript (parts.drop 1)
  let (territory, parts) := takeTerritory parts
  let (variant, parts) := takeVariant parts
  unless parts.isEmpty do throw (.notACode code)
  return { language, script, territory, variant, modifier := modifier.getD [] }

/-! ### Names -/

/-- Some names that languages have for themselves. -/
def selfNames : List (String × String) :=
  [("en", "English"), ("ja", "日本語"), ("de", "Deutsch"), ("fr", "Français"), ("es", "Español"),
    ("it", "Italiano"), ("pt", "Português"), ("ko", "한국어"), ("zh", "中文"), ("ru", "Русский"),
    ("nl", "Nederlands"), ("sv", "Svenska"), ("pl", "Polski"), ("tr", "Türkçe"),
    ("ar", "العربية"), ("he", "עברית"), ("uk", "Українська"), ("el", "Ελληνικά"),
    ("cs", "Čeština"), ("fi", "Suomi"), ("da", "Dansk"), ("hu", "Magyar"), ("th", "ไทย"),
    ("vi", "Tiếng Việt"), ("id", "Indonesia"), ("hi", "हिन्दी"),
    ("en_US", "English (United States)"), ("en_GB", "English (United Kingdom)"),
    ("pt_BR", "Português (Brasil)"), ("zh_Hant_TW", "中文 (繁體, 台灣)"),
    ("zh_Hans_CN", "中文 (简体, 中国)"), ("fr_CA", "Français (Canada)"),
    ("de_AT", "Deutsch (Österreich)")]

/-- The name for itself of the language of a code. -/
def selfName? (code : Text) : Option Text :=
  selfNames.findSome? fun entry =>
    if Text.ofString entry.1 = code then some (Text.ofString entry.2) else none

/-- The name that the language of a locale has for itself, if it is a known one. -/
def knownName (code : Text) : Except Text Text :=
  match subtags code with
  | .error fault => .error fault.message
  | .ok subtags =>
    match selfName? subtags.code with
    | some name => .ok name
    | none => .error ("unknown locale " ++ Quoted.encode subtags.code)

end Phrasebook.Locale

namespace Phrasebook

/-- A host with a stack of the usual size that knows some locales. -/
@[reducible]
def Host.known : Host := { Host.plain with localeName := Locale.knownName }

end Phrasebook
