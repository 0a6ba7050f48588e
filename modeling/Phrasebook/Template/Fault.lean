import Phrasebook.Number.Numeral

/-!
# Faults of templates

Why a template cannot be read, and why a value cannot be written as a token asks. The number that
cannot be converted at all is a fault of its own kind, because no wording of a template helps.
-/

namespace Phrasebook.Template

/-- What is wrong with the braces of a template. -/
inductive BraceFault where
  | singleOpen
  | singleClose
  | openInName
  | unclosedName
  | missingConversion
  | missingColon
  | unclosedSpec
deriving DecidableEq, Repr

/-- The wording of a fault of braces. -/
def BraceFault.message : BraceFault → Text
  | .singleOpen => "Single '\x7b' encountered in format string"
  | .singleClose => "Single '\x7d' encountered in format string"
  | .openInName => "unexpected '\x7b' in field name"
  | .unclosedName => "expected '\x7d' before end of string"
  | .missingConversion => "end of string while looking for conversion specifier"
  | .missingColon => "expected ':' after conversion specifier"
  | .unclosedSpec => "unmatched '\x7b' in format spec"

/-- Why a value rejects its format specification or conversion. -/
inductive FormatFault where
  | missingPrecision
  | tooManyDigits
  | precisionTooBig
  | bothSeparators
  | separatorWith (separator code : CodePoint)
  | malformedSpec (spec kindName : Text)
  | unknownCode (code : CodePoint) (kindName : Text)
  | unknownConversion (conversion : CodePoint)
  | unsupported (kindName : Text)
  | precisionOfInteger
  | negativeZeroOfInteger
  | signOfCharacter
  | alternateOfCharacter
  | spaceOfText
  | signOfText
  | negativeZeroOfText
  | alternateOfText
  | alignmentOfText
  | integerTooLong
deriving DecidableEq, Repr

/-- A format code inside a message: itself, or its number if it is not visible ASCII. -/
def shownCode (code : CodePoint) : Text :=
  if 0x20 < code.value ∧ code.value < 0x80 then [code]
  else "\\x" ++ Numeral.inBase 16 code.value

/-- The wording of a fault of a format. -/
def FormatFault.message : FormatFault → Text
  | .missingPrecision => "Format specifier missing precision"
  | .tooManyDigits => "Too many decimal digits in format string"
  | .precisionTooBig => "precision too big"
  | .bothSeparators => "Cannot specify both ',' and '_'."
  | .separatorWith separator code =>
    "Cannot specify '" ++ [separator] ++ "' with '" ++ shownCode code ++ "'."
  | .malformedSpec spec kindName =>
    "Invalid format specifier '" ++ spec ++ "' for object of type '" ++ kindName ++ "'"
  | .unknownCode code kindName =>
    "Unknown format code '" ++ shownCode code ++ "' for object of type '" ++ kindName ++ "'"
  | .unknownConversion conversion => "Unknown conversion specifier " ++ [conversion]
  | .unsupported kindName => "unsupported format string passed to " ++ kindName ++ ".__format__"
  | .precisionOfInteger => "Precision not allowed in integer format specifier"
  | .negativeZeroOfInteger =>
    "Negative zero coercion (z) not allowed in integer format specifier"
  | .signOfCharacter => "Sign not allowed with integer format specifier 'c'"
  | .alternateOfCharacter => "Alternate form (#) not allowed with integer format specifier 'c'"
  | .spaceOfText => "Space not allowed in string format specifier"
  | .signOfText => "Sign not allowed in string format specifier"
  | .negativeZeroOfText => "Negative zero coercion (z) not allowed in string format specifier"
  | .alternateOfText => "Alternate form (#) not allowed in string format specifier"
  | .alignmentOfText => "'=' alignment not allowed in string format specifier"
  | .integerTooLong =>
    "Exceeds the limit (4300 digits) for integer string conversion; " ++
      "use sys.set_int_max_str_digits() to increase the limit"

/-- Why a number does not fit what a format code needs. -/
inductive Overflow where
  /-- The number is not that of a code point. -/
  | notACodePoint
  /-- The number does not fit a machine word. -/
  | pastWord
  /-- The number is past the greatest binary number. -/
  | pastReal
deriving DecidableEq, Repr

/-- The wording of an overflow. -/
def Overflow.message : Overflow → Text
  | .notACodePoint => "%c arg not in range(0x110000)"
  | .pastWord => "Python int too large to convert to C long"
  | .pastReal => "int too large to convert to float"

end Phrasebook.Template
