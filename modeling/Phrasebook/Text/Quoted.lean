import Phrasebook.Number.Numeral
import Phrasebook.Unicode.Printable

/-!
# Quoted texts

How a text is shown inside a message: between quotes, with escapes for the quote, the backslash and
whatever cannot be printed. Single quotes are used unless the text holds a single quote and no
double quote. The plain form escapes every character past ASCII as well.
-/

namespace Phrasebook.Quoted

/-- The escape of a code point by its number, as short as the number allows. -/
def numberEscape (point : CodePoint) : Text :=
  if point.value < 0x100 then "\\x" ++ Numeral.padded 16 2 point.value
  else if point.value < 0x10000 then "\\u" ++ Numeral.padded 16 4 point.value
  else "\\U" ++ Numeral.padded 16 8 point.value

/-- The code point between quotes of one kind. -/
def escape (quote point : CodePoint) : Text :=
  if point = quote ∨ point = '\\' then [.scalar '\\', point]
  else if point = '\t' then "\\t"
  else if point = '\n' then "\\n"
  else if point = '\r' then "\\r"
  else if point.isPrintable then [point]
  else numberEscape point

/-- The quote that a text is put between. -/
def quoteFor (text : Text) : CodePoint :=
  if text.contains (.scalar '\'') && !text.contains (.scalar '"') then '"' else '\''

/-- A text between quotes. -/
def encode (text : Text) : Text :=
  let quote := quoteFor text
  [quote] ++ text.flatMap (escape quote) ++ [quote]

/-- A printed form with numbers for all characters past ASCII. -/
def plain (text : Text) : Text :=
  text.flatMap fun point => if point.value < 0x80 then [point] else numberEscape point

end Phrasebook.Quoted
