import Phrasebook.Text.Basic

/-!
# Comments of key modules

A text is shown in a comment of one line, cut short if it is long. Characters that would end the line
become blanks, and angle brackets are escaped.
-/

namespace Phrasebook.KeyModule

/-- How many characters of a text a comment shows. -/
def commentLimit : Nat := 30

/-- A blank for a character that would end the line. -/
def flatten (point : CodePoint) : CodePoint :=
  if point = '\n' ∨ point = '\r' ∨ point = '\x00' then ' ' else point

/-- An angle bracket as an entity. -/
def escapeBracket (point : CodePoint) : Text :=
  if point = '<' then "&lt;" else if point = '>' then "&gt;" else [point]

/-- A text that was cut, with an ellipsis if something is missing. -/
def shorten (text : Text) : Text :=
  if commentLimit < text.length then text.take commentLimit ++ "..." else text

/-- A text as a comment shows it. -/
def commentText (text : Text) : Text :=
  (shorten (text.map flatten)).flatMap escapeBracket

end Phrasebook.KeyModule
