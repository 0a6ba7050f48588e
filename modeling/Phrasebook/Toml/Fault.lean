import Phrasebook.Text.Quoted

/-!
# Faults of settings files

What can be wrong with a TOML text, and where. A fault past the last character is at the end of the
document; every other one has a line and a column, both counted from one.
-/

namespace Phrasebook.Toml

/-- The names that lead to a value, from the outermost table on. -/
abbrev Key := List Text

/-- The display of a key: its names in parentheses, and a comma after a single one. -/
def Key.display : Key → Text
  | [name] => "(" ++ Quoted.encode name ++ ",)"
  | names => "(" ++ Text.joinWith ", " (names.map Quoted.encode) ++ ")"

/-- What a reader of TOML met instead of what it needed. -/
inductive Reason where
  | invalidStatement
  | missingLineEnd
  | invalidKeyStart
  | missingEquals
  | missingBracket
  | missingBrackets
  | declaredTwice (key : Key)
  | frozen (key : Key)
  | redefined (key : Key)
  | overwritten
  | duplicateInlineKey (name : Text)
  | unclosedArray
  | unclosedTable
  | invalidValue
  | invalidDate
  | unterminated
  | missingQuote (quote : Text)
  | badEscape
  | badHexadecimal
  | notScalar
  | illegalCharacter (point : CodePoint)
  | invalidCharacter (point : CodePoint)
deriving DecidableEq, Repr

/-- The wording of a reason. -/
def Reason.message : Reason → Text
  | .invalidStatement => "Invalid statement"
  | .missingLineEnd => "Expected newline or end of document after a statement"
  | .invalidKeyStart => "Invalid initial character for a key part"
  | .missingEquals => "Expected '=' after a key in a key/value pair"
  | .missingBracket => "Expected ']' at the end of a table declaration"
  | .missingBrackets => "Expected ']]' at the end of an array declaration"
  | .declaredTwice key => "Cannot declare " ++ key.display ++ " twice"
  | .frozen key => "Cannot mutate immutable namespace " ++ key.display
  | .redefined key => "Cannot redefine namespace " ++ key.display
  | .overwritten => "Cannot overwrite a value"
  | .duplicateInlineKey name => "Duplicate inline table key " ++ Quoted.encode name
  | .unclosedArray => "Unclosed array"
  | .unclosedTable => "Unclosed inline table"
  | .invalidValue => "Invalid value"
  | .invalidDate => "Invalid date or datetime"
  | .unterminated => "Unterminated string"
  | .missingQuote quote => "Expected " ++ Quoted.encode quote
  | .badEscape => "Unescaped '\\' in a string"
  | .badHexadecimal => "Invalid hex value"
  | .notScalar => "Escaped character is not a Unicode scalar value"
  | .illegalCharacter point => "Illegal character " ++ Quoted.encode [point]
  | .invalidCharacter point => "Found invalid character " ++ Quoted.encode [point]

/-- A place in a text. -/
inductive Place where
  | at (line column : Nat)
  | documentEnd
deriving DecidableEq, Repr

/-- The place before the last code points of a text. -/
def Place.before (text : Text) (left : Nat) : Place :=
  if left = 0 then .documentEnd
  else
    let earlier := text.take (text.length - left)
    .at (earlier.count (.scalar '\n') + 1)
      ((earlier.reverse.takeWhile (· != .scalar '\n')).length + 1)

/-- How a place is written. -/
def Place.display : Place → Text
  | .at line column =>
    "line " ++ Numeral.natural line ++ ", column " ++ Numeral.natural column
  | .documentEnd => "end of document"

/-- Why a text is not read as TOML. -/
inductive Fault where
  | malformed (reason : Reason) (place : Place)
  /-- A whole number has more digits than can be converted. -/
  | numberTooLong (digits : Nat)
  /-- Arrays and inline tables are nested deeper than the reader follows. -/
  | tooDeep
deriving DecidableEq, Repr

/-- The wording of a fault of syntax. -/
def describe (reason : Reason) (place : Place) : Text :=
  reason.message ++ " (at " ++ place.display ++ ")"

end Phrasebook.Toml
