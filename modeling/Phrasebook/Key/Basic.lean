import Phrasebook.Datum
import Phrasebook.Unicode.CaseMapping
import Phrasebook.Unicode.Category

/-!
# Keys

A key names a node among its siblings. It is made of letters and numbers of any script, underscores,
dashes and periods; dashes and periods count as underscores wherever a key becomes a name.

The title case of a key capitalizes each word and keeps words written in capitals. Keys that are their
own title case are discouraged, because their constant and their class would have one name.
-/

namespace Phrasebook.Key

/-- Writes an underscore for every dash and period. -/
def normalize (key : Text) : Text :=
  key.map fun (point : CodePoint) => if point = '-' ∨ point = '.' then .scalar '_' else point

/-- Whether a normalized key may contain a code point. -/
def isKeyCharacter (point : CodePoint) : Bool :=
  point = '_' || point.isLetter || point.isNumber

/-- Whether a text is a key: it is not empty, and its normal form has only key characters. -/
def isValid (key : Text) : Bool :=
  !key.isEmpty && (normalize key).all isKeyCharacter

/-- Whether a value is a text and a key. -/
def isValidDatum : Datum → Bool
  | .text key => isValid key
  | _ => false

/-- Whether a code point belongs to the word that it follows. -/
def continuesWord (point : CodePoint) : Bool :=
  point.isLetter || point.isNumber || point.isMark

/-- Capitalizes a word and lowers the rest of it, unless it is written in capitals. -/
def capitalize (first : CodePoint) (rest : Text) : Text :=
  if Text.isUppercase (first :: rest) then first :: rest else first.upper ++ rest.lower

/-- Capitalizes every word of a text. A word starts at a letter and goes on through letters, numbers
and marks. -/
def titleCase (text : Text) : Text :=
  match text with
  | [] => []
  | first :: rest =>
    if first.isLetter then
      capitalize first (rest.takeWhile continuesWord) ++ titleCase (rest.dropWhile continuesWord)
    else first :: titleCase rest
termination_by text.length
decreasing_by
  · have := (List.dropWhile_sublist continuesWord (l := rest)).length_le
    simp only [List.length_cons]
    omega
  · simp

/-- Whether a key is its own title case. -/
def isTitleCase (key : Text) : Bool := key = titleCase key

end Phrasebook.Key
