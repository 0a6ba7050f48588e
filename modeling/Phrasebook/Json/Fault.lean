import Phrasebook.Number.Numeral

/-!
# Faults of JSON texts

What can be wrong with a JSON text, and where. A fault of syntax names what was expected; its place
is given as a line, a column and an offset, all counted in code points.
-/

namespace Phrasebook.Json

/-- What a reader of JSON met instead of what it needed. -/
inductive Reason where
  | byteOrderMark
  | missingValue
  | missingName
  | missingColon
  | missingComma
  | unterminatedString
  | controlCharacter
  | badEscape
  | badNumberEscape
  | extraData
deriving DecidableEq, Repr

/-- The wording of a reason. -/
def Reason.message : Reason → Text
  | .byteOrderMark => "Unexpected UTF-8 BOM (decode using utf-8-sig)"
  | .missingValue => "Expecting value"
  | .missingName => "Expecting property name enclosed in double quotes"
  | .missingColon => "Expecting ':' delimiter"
  | .missingComma => "Expecting ',' delimiter"
  | .unterminatedString => "Unterminated string starting at"
  | .controlCharacter => "Invalid control character at"
  | .badEscape => "Invalid \\escape"
  | .badNumberEscape => "Invalid \\uXXXX escape"
  | .extraData => "Extra data"

/-- A place in a text: its line and column count from one, its offset from zero. -/
structure Place where
  line : Nat
  column : Nat
  offset : Nat
deriving DecidableEq, Repr

/-- The place after the first code points of a text. -/
def Place.after (text : Text) (offset : Nat) : Place :=
  let before := text.take offset
  { line := before.count (.scalar '\n') + 1
    column := (before.reverse.takeWhile (· != .scalar '\n')).length + 1
    offset }

/-- Why a text is not read as JSON. -/
inductive Fault where
  | malformed (reason : Reason) (place : Place)
  /-- A whole number has more digits than can be converted. -/
  | numberTooLong (digits : Nat)
  /-- Arrays and objects are nested deeper than the reader follows. -/
  | tooDeep
deriving DecidableEq, Repr

/-- The wording of a fault of syntax. -/
def describe (reason : Reason) (place : Place) : Text :=
  reason.message ++ ": line " ++ Numeral.natural place.line ++ " column " ++
    Numeral.natural place.column ++ " (char " ++ Numeral.natural place.offset ++ ")"

end Phrasebook.Json
