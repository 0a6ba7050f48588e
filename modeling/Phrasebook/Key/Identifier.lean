import Phrasebook.Key.Basic
import Phrasebook.Unicode.Identifier

/-!
# Names for keys

The names that a generated key module gives to its constants and classes. A name is an identifier of
the language in which such modules are written, and none of its keywords.
-/

namespace Phrasebook.Key

/-- The keywords of the language of key modules. -/
def keywords : List Text :=
  List.map Text.ofString
    ["False", "None", "True", "and", "as", "assert", "async", "await", "break", "class",
      "continue", "def", "del", "elif", "else", "except", "finally", "for", "from", "global", "if",
      "import", "in", "is", "lambda", "nonlocal", "not", "or", "pass", "raise", "return", "try",
      "while", "with", "yield"]

/-- The identifier for a normalized key. What needs a starting character gets an underscore in
front, and a keyword gets one behind. -/
def identifier? (name : Text) : Option Text :=
  let started : Text :=
    if !Text.isIdentifier name && Text.isIdentifier (.scalar '_' :: name) then .scalar '_' :: name
    else name
  let free : Text := if keywords.contains started then started ++ [.scalar '_'] else started
  if name.isEmpty then none else if Text.isIdentifier free then some free else none

/-- The name of the constant for a key. -/
def constantName? (key : Text) : Option Text := identifier? (normalize key)

/-- The name of the class for a key. -/
def className? (key : Text) : Option Text := identifier? (titleCase (normalize key))

end Phrasebook.Key
