import Phrasebook.Template.Fault
import Phrasebook.Unicode.Digit

/-!
# Format specifications

The part of a token after its colon: fill and alignment, sign, coercion of negative zero, alternate
form, zero padding, width, digit separator, precision and a code for the kind of presentation. Widths
and precisions may be written with the decimal digits of any script.
-/

namespace Phrasebook.Template

/-- Where the padding goes. -/
inductive Alignment where
  | left
  | right
  | center
  /-- Between the sign and the digits. -/
  | afterSign
deriving DecidableEq, Repr

/-- The alignment that a code point asks for. -/
def Alignment.of? (point : CodePoint) : Option Alignment :=
  if point = '<' then some .left
  else if point = '>' then some .right
  else if point = '^' then some .center
  else if point = '=' then some .afterSign
  else none

/-- Which sign a number shows if it is not negative. -/
inductive SignMode where
  | onlyMinus
  | plus
  | space
  /-- A minus sign was asked for, which is what happens anyway. -/
  | minus
deriving DecidableEq, Repr

/-- A separator between groups of digits. -/
inductive Separator where
  | comma
  | underscore
deriving DecidableEq, Repr

/-- The character of a separator. -/
def Separator.point : Separator → CodePoint
  | .comma => ','
  | .underscore => '_'

/-- A format specification. -/
structure Spec where
  fill : CodePoint
  alignment : Alignment
  sign : SignMode
  noNegativeZero : Bool
  alternate : Bool
  width : Option Nat
  separator : Option Separator
  precision : Option Nat
  /-- The code of the presentation. NUL asks for the general presentation of a binary number. -/
  code : CodePoint
deriving DecidableEq, Repr

/-- What a specification leaves open for a kind of value. -/
structure Spec.Defaults where
  alignment : Alignment
  code : CodePoint
  kindName : Text

/-- The greatest number that may be written in a specification. -/
def greatestSpecNumber : Nat := Nat.pow 2 63 - 1

/-- Reads a number at the front of a specification, if there is a digit. -/
def readNumber (text : Text) : Except FormatFault (Option Nat × Text) :=
  let digits := text.takeWhile fun point => point.decimal?.isSome
  let number := Numeral.value (digits.filterMap CodePoint.decimal?)
  if greatestSpecNumber < number then .error .tooManyDigits
  else .ok (if digits.isEmpty then none else some number, text.drop digits.length)

/-- Reads a code point if it is the expected one. -/
def readFlag (expected : CodePoint) : Text → Bool × Text
  | [] => (false, [])
  | point :: rest => if point = expected then (true, rest) else (false, point :: rest)

/-- Reads fill and alignment. -/
def readAlignment (text : Text) : Option CodePoint × Option Alignment × Text :=
  match text with
  | fill :: second :: rest =>
    match Alignment.of? second with
    | some alignment => (some fill, some alignment, rest)
    | none =>
      match Alignment.of? fill with
      | some alignment => (none, some alignment, second :: rest)
      | none => (none, none, text)
  | [first] =>
    match Alignment.of? first with
    | some alignment => (none, some alignment, [])
    | none => (none, none, text)
  | [] => (none, none, [])

/-- Reads the sign mode. -/
def readSign : Text → SignMode × Text
  | [] => (.onlyMinus, [])
  | point :: rest =>
    if point = '+' then (.plus, rest)
    else if point = ' ' then (.space, rest)
    else if point = '-' then (.minus, rest)
    else (.onlyMinus, point :: rest)

/-- Reads the digit separator. Two of them may not be mixed. -/
def readSeparator (text : Text) : Except FormatFault (Option Separator × Text) :=
  let (comma, text) := readFlag ',' text
  let (underscore, text) := readFlag '_' text
  if underscore then
    if comma then .error .bothSeparators
    else if (readFlag ',' text).1 then .error .bothSeparators
    else .ok (some .underscore, text)
  else .ok (if comma then some .comma else none, text)

/-- Reads the precision after its point. -/
def readPrecision (text : Text) : Except FormatFault (Option Nat × Text) :=
  let (point, text) := readFlag '.' text
  if point then do
    match ← readNumber text with
    | (none, _) => .error .missingPrecision
    | found => .ok found
  else .ok (none, text)

/-- The codes with which a comma may stand, and those that allow only an underscore. -/
def separatorCodes : Separator → List CodePoint
  | .comma => ['d', 'e', 'f', 'g', 'E', 'G', '%', 'F', '\x00'].map CodePoint.scalar
  | .underscore =>
    ['d', 'e', 'f', 'g', 'E', 'G', '%', 'F', '\x00', 'b', 'o', 'x', 'X'].map CodePoint.scalar

/-- Reads a format specification. -/
def Spec.read (defaults : Spec.Defaults) (text : Text) : Except FormatFault Spec := do
  let (fill, alignment, rest) := readAlignment text
  let (sign, rest) := readSign rest
  let (noNegativeZero, rest) := readFlag 'z' rest
  let (alternate, rest) := readFlag '#' rest
  let (zeroPadded, rest) := if fill.isSome then (false, rest) else readFlag '0' rest
  let (width, rest) ← readNumber rest
  let (separator, rest) ← readSeparator rest
  let (precision, rest) ← readPrecision rest
  let code ← match rest with
    | [] => pure defaults.code
    | [code] => pure code
    | _ => throw (.malformedSpec text defaults.kindName)
  if let some separator := separator then
    unless (separatorCodes separator).contains code do
      throw (.separatorWith separator.point code)
  let implied :=
    if zeroPadded && defaults.alignment = .right then .afterSign else defaults.alignment
  return {
    fill := fill.getD (if zeroPadded then '0' else ' ')
    alignment := alignment.getD implied
    sign, noNegativeZero, alternate, width, separator, precision, code }

end Phrasebook.Template
