import Phrasebook.Text.Basic

/-!
# Numerals

How whole numbers are written: digits in a base, padding and the sign. Reading a run of digits is the
other direction.
-/

namespace Phrasebook

namespace Numeral

/-- The digits of a number in a base, most significant first. Zero has one digit. -/
def digitsIn (base number : Nat) : List Nat :=
  go number []
where
  /-- Puts the digits of the number in front of those already found. -/
  go (number : Nat) (found : List Nat) : List Nat :=
    if _ : base ≤ number ∧ 2 ≤ base then go (number / base) (number % base :: found)
    else number :: found
  termination_by number
  decreasing_by exact Nat.div_lt_self (by omega) (by omega)

/-- The character of a digit below thirty-six. -/
def digit (value : Nat) : CodePoint :=
  .scalar (Char.ofNat (if value < 10 then 0x30 + value else 0x57 + value))

/-- A number in a base, with small letters for the digits past nine. -/
def inBase (base number : Nat) : Text := (digitsIn base number).map digit

/-- A number in decimal. -/
def natural (number : Nat) : Text := inBase 10 number

/-- A signed number in decimal. -/
def integer (number : Int) : Text :=
  if number < 0 then .scalar '-' :: natural number.natAbs else natural number.natAbs

/-- The most digits of a whole number that can be written in decimal. -/
def digitLimit : Nat := 4300

/-- Whether a whole number has too many digits to be written. -/
def isTooLong (number : Int) : Bool := digitLimit < (natural number.natAbs).length

/-- What is said in the place of a whole number that has too many digits to be written. -/
def tooLongMessage : Text :=
  "Exceeds the limit (4300 digits) for integer string conversion; " ++
    "use sys.set_int_max_str_digits() to increase the limit"

/-- A number in a base with zeros in front up to a width. -/
def padded (base width number : Nat) : Text :=
  let digits := inBase base number
  List.replicate (width - digits.length) (.scalar '0') ++ digits

/-- The number written by decimal digits, most significant first. -/
def value (digits : List Nat) : Nat :=
  digits.foldl (fun total digit => total * 10 + digit) 0

/-- The number written by the ASCII digits of a text; what is no digit is left out. -/
def ofDigits (text : Text) : Nat := value (text.filterMap CodePoint.digit?)

end Numeral

end Phrasebook
