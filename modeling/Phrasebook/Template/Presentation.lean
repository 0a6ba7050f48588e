import Phrasebook.Datum
import Phrasebook.Template.Spec

/-!
# Presenting values

How a value is written under a format specification. A number is first split into sign, lead, digits
and tail; sign mode, grouping, zero padding and alignment then work on these parts whatever kind of
number they come from.

The display of a value for a token is not limited in depth here: that the stack of a host is used up by
the display of a value is modelled for the keys of documents and for settings, and left out for tokens.
-/

namespace Phrasebook.Template

/-- Why a value cannot be presented. -/
inductive PresentationFault where
  | format (fault : FormatFault)
  | overflow (overflow : Overflow)
deriving DecidableEq, Repr

/-- The parts of a written number. -/
structure NumberParts where
  negative : Bool
  /-- What stands between sign and digits. -/
  lead : Text
  /-- The digits that are grouped and padded with zeros. -/
  digits : Text
  /-- The point with what follows it, or all that is not grouped. -/
  tail : Text

/-! ### Padding and grouping -/

/-- The text with padding up to a width. -/
def pad (spec : Spec) (before after : Text) : Text :=
  let missing := spec.width.getD 0 - (before.length + after.length)
  let filled (count : Nat) : Text := List.replicate count spec.fill
  match spec.alignment with
  | .left => before ++ after ++ filled missing
  | .right => filled missing ++ before ++ after
  | .center => filled (missing / 2) ++ before ++ after ++ filled (missing - missing / 2)
  | .afterSign => before ++ filled missing ++ after

/-- Digits with a separator after every group, counted from the right. -/
def grouped (size : Nat) (separator : CodePoint) : Text → Text
  | [] => []
  | [digit] => [digit]
  | digit :: rest =>
    if rest.length % size = 0 then digit :: separator :: grouped size separator rest
    else digit :: grouped size separator rest

/-- The fewest digits that are at least as wide as asked once they are grouped. -/
def digitsForWidth (size width : Nat) : Nat :=
  width - width / (size + 1) + if width % (size + 1) = 0 then 1 else 0

/-- How many digits make a group under a code. -/
def groupSize (code : CodePoint) : Nat :=
  if code = 'b' ∨ code = 'o' ∨ code = 'x' ∨ code = 'X' then 4 else 3

/-- Digits with zeros in front up to a width, and separators if they are asked for. -/
def groupedDigits (spec : Spec) (width : Nat) (digits : Text) : Text :=
  if digits.isEmpty then []
  else
    match spec.separator with
    | none => List.replicate (width - digits.length) (.scalar '0') ++ digits
    | some separator =>
      let size := groupSize spec.code
      let count := digitsForWidth size width
      grouped size separator.point
        (List.replicate (count - digits.length) (.scalar '0') ++ digits)

/-- The sign that a number shows. -/
def signText (mode : SignMode) (negative : Bool) : Text :=
  if negative then "-"
  else
    match mode with
    | .plus => "+"
    | .space => " "
    | .onlyMinus | .minus => []

/-- Puts the parts of a number together under a specification. -/
def NumberParts.present (spec : Spec) (parts : NumberParts) : Text :=
  let before := signText spec.sign parts.negative ++ parts.lead
  let zeroPadded := spec.fill = '0' && spec.alignment = .afterSign
  let width :=
    if zeroPadded then spec.width.getD 0 - (before.length + parts.tail.length) else 0
  pad spec before (groupedDigits spec width parts.digits ++ parts.tail)

/-! ### Kinds of values -/

/-- The capital form of the letters in a written number. -/
def capitals (text : Text) : Text :=
  text.map fun
    | .scalar char => .scalar char.toUpper
    | point => point

/-- Writes a whole number in decimal, unless it has too many digits. -/
def decimalText (number : Int) : Except FormatFault Text :=
  let text := Numeral.natural number.natAbs
  if Numeral.digitLimit < text.length then .error .integerTooLong
  else .ok (if number < 0 then .scalar '-' :: text else text)

/-- The bound of the whole numbers that fit a machine word with a sign. -/
def wordBound : Nat := Nat.pow 2 63

/-- The parts of a whole number as a code point. -/
def characterParts (spec : Spec) (number : Int) : Except PresentationFault NumberParts :=
  if spec.sign ≠ .onlyMinus then .error (.format .signOfCharacter)
  else if spec.alternate then .error (.format .alternateOfCharacter)
  else if number < -(wordBound : Int) ∨ (wordBound : Int) ≤ number then .error (.overflow .pastWord)
  else if number < 0 then .error (.overflow .notACodePoint)
  else
    match CodePoint.ofNat? number.toNat with
    | none => .error (.overflow .notACodePoint)
    | some point => .ok ⟨false, [], [], [point]⟩

/-- The base that a code asks for, with the letter that marks it. -/
def baseOf (code : CodePoint) : Nat × Text :=
  if code = 'b' then (2, "0b")
  else if code = 'o' then (8, "0o")
  else if code = 'x' then (16, "0x")
  else if code = 'X' then (16, "0X")
  else (10, [])

/-- The parts of a whole number in a base. -/
def integerParts (spec : Spec) (number : Int) : Except PresentationFault NumberParts :=
  if spec.precision.isSome then .error (.format .precisionOfInteger)
  else if spec.noNegativeZero then .error (.format .negativeZeroOfInteger)
  else if spec.code = 'c' then characterParts spec number
  else
    let (base, mark) := baseOf spec.code
    let digits := Numeral.inBase base number.natAbs
    if base = 10 ∧ Numeral.digitLimit < digits.length then .error (.format .integerTooLong)
    else
      let digits := if spec.code = 'X' then capitals digits else digits
      .ok ⟨number < 0, if spec.alternate then mark else [], digits, []⟩

/-- A style of writing a finite binary number. -/
inductive RealStyle where
  /-- A count of places. -/
  | places (count : Nat)
  /-- One digit before the point and an exponent. -/
  | exponent (places : Nat)
  /-- A count of significant digits, with an exponent if the number is very large or small. -/
  | general (digits : Nat)
  /-- The fewest digits that identify the number. -/
  | shortest
deriving DecidableEq, Repr

/-- The text of the size of a finite number. -/
def sizeText (style : RealStyle) (alternate pointZero : Bool) (significand : Nat)
    (exponent : Int) : Text :=
  let (numerator, denominator) := Binary64.quotient significand exponent
  let significant (count : Nat) : Decimal :=
    if significand = 0 then Decimal.zero
    else Decimal.ofQuotientSignificant count numerator denominator
  match style with
  | .places count =>
    (Decimal.ofQuotientPlaces count numerator denominator).positional ⟨count, alternate⟩
  | .exponent count => (significant (count + 1)).scientific ⟨count, alternate⟩
  | .general count =>
    let count := max count 1
    let decimal := if alternate then significant count else (significant count).trimmed
    let limit : Int := if pointZero then count - 1 else count
    if decimal.point ≤ -4 ∨ limit < decimal.point then
      decimal.scientific ⟨if alternate then count - 1 else 0, alternate⟩
    else
      let shown := if alternate then ((count : Int) - decimal.point).toNat else 0
      decimal.positional ⟨if pointZero then max shown 1 else shown, alternate⟩
  | .shortest =>
    let decimal := Binary64.shortestDecimal significand exponent
    if decimal.point ≤ -4 ∨ 16 < decimal.point then decimal.scientific ⟨0, alternate⟩
    else decimal.positional ⟨1, alternate⟩

/-- The style that a code and a precision ask for. -/
def realStyle (code : CodePoint) (precision : Option Nat) : RealStyle :=
  let count := precision.getD 6
  if code = 'e' ∨ code = 'E' then .exponent count
  else if code = 'f' ∨ code = 'F' ∨ code = '%' then .places count
  else if code = '\x00' ∧ precision.isNone then .shortest
  else .general count

/-- The greatest precision of a binary number. -/
def greatestPrecision : Nat := Nat.pow 2 31 - 1

/-- The parts of a binary number. -/
def realParts (spec : Spec) (number : Binary64) : Except PresentationFault NumberParts :=
  if greatestPrecision < spec.precision.getD 0 then .error (.format .precisionTooBig)
  else
    let percent : Text := if spec.code = '%' then "%" else []
    let capital := spec.code = 'E' ∨ spec.code = 'F' ∨ spec.code = 'G'
    let inCase (text : Text) : Text := if capital then capitals text else text
    match if spec.code = '%' then number.scaleBy 100 else number with
    | .nan => .ok ⟨false, [], [], inCase "nan" ++ percent⟩
    | .infinite negative => .ok ⟨negative, [], [], inCase "inf" ++ percent⟩
    | .finite negative significand exponent =>
      let text :=
        sizeText (realStyle spec.code spec.precision) spec.alternate (spec.code = '\x00')
          significand exponent
      let isZero := text.all fun (point : CodePoint) => !point.isAsciiDigit || point = '0'
      let text := inCase text
      .ok
        { negative := negative && !(spec.noNegativeZero && isZero)
          lead := []
          digits := text.takeWhile CodePoint.isAsciiDigit
          tail := text.dropWhile CodePoint.isAsciiDigit ++ percent }

/-- Presents a text. -/
def presentText (spec : Spec) (text : Text) : Except FormatFault Text :=
  if spec.sign = .space then .error .spaceOfText
  else if spec.sign ≠ .onlyMinus then .error .signOfText
  else if spec.noNegativeZero then .error .negativeZeroOfText
  else if spec.alternate then .error .alternateOfText
  else if spec.alignment = .afterSign then .error .alignmentOfText
  else .ok (pad spec [] (text.take (spec.precision.getD text.length)))

/-- The codes of whole numbers. -/
def integerCodes : List CodePoint := ['b', 'c', 'd', 'o', 'x', 'X', 'n'].map CodePoint.scalar

/-- The codes of binary numbers. -/
def realCodes : List CodePoint := ['e', 'E', 'f', 'F', 'g', 'G', '%'].map CodePoint.scalar

/-- Presents a binary number. -/
def presentReal (spec : Spec) (number : Binary64) : Except PresentationFault Text := do
  return (← realParts spec number).present spec

/-- Presents a whole number. -/
def presentInteger (kindName spec : Text) (number : Int) : Except PresentationFault Text := do
  let spec ← (Spec.read ⟨.right, 'd', kindName⟩ spec).mapError .format
  if integerCodes.contains spec.code then return (← integerParts spec number).present spec
  else if realCodes.contains spec.code then
    match Binary64.ofInt number with
    | .infinite _ => throw (.overflow .pastReal)
    | real => presentReal spec real
  else throw (.format (.unknownCode spec.code kindName))

/-- The display of a value, unless a number in it is too long. -/
def displayOf (value : Datum) : Except FormatFault Text :=
  if value.holdsLongInteger then .error .integerTooLong else .ok value.display

/-- A value as plain text: a text is itself, and all else is displayed. -/
def plainText : Datum → Except FormatFault Text
  | .text value => .ok value
  | value => displayOf value

/-- Presents a value under a format specification; an empty one asks for plain text. -/
def present (spec : Text) (value : Datum) : Except PresentationFault Text :=
  if spec.isEmpty then (plainText value).mapError .format
  else
    match value with
    | .int number => presentInteger "int" spec number
    | .bool truth => presentInteger "bool" spec (if truth then 1 else 0)
    | .real number => do
      let spec ← (Spec.read ⟨.right, '\x00', "float"⟩ spec).mapError .format
      if realCodes.contains spec.code || spec.code = 'n' || spec.code = '\x00' then
        presentReal spec number
      else throw (.format (.unknownCode spec.code "float"))
    | .text text => do
      let spec ← (Spec.read ⟨.left, 's', "str"⟩ spec).mapError .format
      if spec.code = 's' then (presentText spec text).mapError .format
      else throw (.format (.unknownCode spec.code "str"))
    | value => throw (.format (.unsupported value.kindName))

/-- Converts a value as a token asks. -/
def convert (conversion : CodePoint) (value : Datum) : Except FormatFault Datum :=
  if conversion = 's' then .text <$> plainText value
  else if conversion = 'r' then .text <$> displayOf value
  else if conversion = 'a' then (fun text => .text (Quoted.plain text)) <$> displayOf value
  else .error (.unknownConversion conversion)

end Phrasebook.Template
