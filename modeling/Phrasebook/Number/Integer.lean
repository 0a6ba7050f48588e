import Phrasebook.Number.Numeral
import Phrasebook.Unicode.Blank
import Phrasebook.Unicode.Digit

/-!
# Reading whole numbers

A whole number is written in decimal digits of any script, with a sign or without, and with blanks
around it. One underscore may stand between two digits.
-/

namespace Phrasebook.Integer

/-- The most digits that can be converted. -/
def digitLimit : Nat := 4300

/-- Whether a code point may stand around a number: a blank, but no separator of ASCII files. -/
def isAround (point : CodePoint) : Bool :=
  point.isBlank && !(0x1C ≤ point.value && point.value ≤ 0x1F)

/-- The values of digits, of which any two may have an underscore between them. -/
def digits? : Text → Option (List Nat)
  | [] => none
  | [digit] => digit.decimal?.map ([·])
  | digit :: .scalar '_' :: rest => do
    let value ← digit.decimal?
    return value :: (← digits? rest)
  | digit :: rest => do
    let value ← digit.decimal?
    return value :: (← digits? rest)

/-- The number that digits write, unless there are too many. -/
def natural? (text : Text) : Option Nat := do
  let digits ← digits? text
  if digitLimit < digits.length then none else some (Numeral.value digits)

/-- Reads a whole number. -/
def read? (text : Text) : Option Int :=
  match Text.trim isAround text with
  | .scalar '-' :: rest => (natural? rest).map fun size => -size
  | .scalar '+' :: rest => (natural? rest).map Int.ofNat
  | rest => (natural? rest).map Int.ofNat

end Phrasebook.Integer
