import Phrasebook.Datum

/-!
# Writing JSON

A value is written on one line. Characters that JSON requires to be escaped are, the common ones by
a letter; a style chooses the separators and whether everything past ASCII is escaped by number.
-/

namespace Phrasebook.Json

/-- The choices that JSON leaves to a writer. -/
structure Style where
  /-- What stands between items and between fields. -/
  betweenItems : Text
  /-- What stands between a name and its value. -/
  afterName : Text
  /-- Whether characters past ASCII are escaped. -/
  asciiOnly : Bool

/-- A style with a blank after each separator. -/
def Style.spaced : Style := ⟨", ", ": ", false⟩

/-- A style without blanks. -/
def Style.compact : Style := ⟨",", ":", false⟩

/-- An escape by number, as a pair of surrogates past the first 65536 code points. -/
def escapeByNumber (point : CodePoint) : Text :=
  let unit (number : Nat) : Text := "\\u" ++ Numeral.padded 16 4 number
  if point.value < 0x10000 then unit point.value
  else
    let offset := point.value - 0x10000
    unit (0xD800 + offset / 0x400) ++ unit (0xDC00 + offset % 0x400)

/-- A code point inside a string. -/
def escape (style : Style) (point : CodePoint) : Text :=
  if point = '"' ∨ point = '\\' then [.scalar '\\', point]
  else if point = '\x08' then "\\b"
  else if point = '\x0c' then "\\f"
  else if point = '\n' then "\\n"
  else if point = '\r' then "\\r"
  else if point = '\t' then "\\t"
  else if point.value < 0x20 ∨ (style.asciiOnly ∧ 0x7F < point.value) then escapeByNumber point
  else [point]

/-- A text as a string. -/
def quote (style : Style) (text : Text) : Text :=
  [.scalar '"'] ++ text.flatMap (escape style) ++ [.scalar '"']

/-- A binary number; the values that are no numbers are written as words. -/
def realText : Binary64 → Text
  | .nan => "NaN"
  | .infinite negative => if negative then "-Infinity" else "Infinity"
  | number => number.render

mutual

/-- Writes a value. -/
def write (style : Style) : Datum → Text
  | .null => "null"
  | .bool value => if value then "true" else "false"
  | .int value => Numeral.integer value
  | .real value => realText value
  | .text value => quote style value
  | .moment value => quote style value.display
  | .list items =>
    [.scalar '['] ++ Text.joinWith style.betweenItems (writeItems style items) ++ [.scalar ']']
  | .record fields =>
    [.scalar '\x7b'] ++ Text.joinWith style.betweenItems (writeFields style fields) ++
      [.scalar '\x7d']

/-- Writes the items of a list. -/
def writeItems (style : Style) : List Datum → List Text
  | [] => []
  | item :: rest => write style item :: writeItems style rest

/-- Writes the fields of a record. -/
def writeFields (style : Style) : List (Text × Datum) → List Text
  | [] => []
  | (name, value) :: rest =>
    (quote style name ++ style.afterName ++ write style value) :: writeFields style rest

end

end Phrasebook.Json
