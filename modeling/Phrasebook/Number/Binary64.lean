import Phrasebook.Number.Numeral

/-!
# Binary floating point numbers

Numbers with 53 significant bits, kept as exact values: a finite number is a natural significand
times a power of two. Every operation here takes an exact quotient of natural numbers and rounds it
once, to the nearest number and to the even one of two that are equally near.
-/

namespace Phrasebook

/-- The quotient of two numbers rounded to the nearest whole number, a half to the even one. -/
def roundedQuotient (numerator denominator : Nat) : Nat :=
  let quotient := numerator / denominator
  let twice := 2 * (numerator % denominator)
  if twice < denominator then quotient
  else if denominator < twice then quotient + 1
  else quotient + quotient % 2

/-- A number of the binary64 format. -/
inductive Binary64 where
  /-- Plus or minus the significand times a power of two. The significand is below `2 ^ 53`, and
  from `2 ^ 52` on unless the exponent is the least one. -/
  | finite (negative : Bool) (significand : Nat) (exponent : Int)
  | infinite (negative : Bool)
  | nan
deriving DecidableEq, Repr, Inhabited

namespace Binary64

/-- The exponent of the least positive number. -/
def leastExponent : Int := -1074

/-- The exponent of the greatest finite numbers. -/
def greatestExponent : Int := 971

/-- Zero with a sign. -/
def zero (negative : Bool) : Binary64 := .finite negative 0 leastExponent

/-- The power of two that is the unit of a quotient's last significant bit. -/
def unitExponent (numerator denominator : Nat) : Int :=
  let estimate : Int := (Nat.log2 numerator : Int) - Nat.log2 denominator - 52
  let (scaledNumerator, scaledDenominator) := scale estimate
  let exact := if scaledNumerator / scaledDenominator < Nat.pow 2 52 then estimate - 1 else estimate
  max exact leastExponent
where
  /-- The quotient in units of a power of two. -/
  scale (exponent : Int) : Nat × Nat :=
    if exponent < 0 then (numerator * Nat.pow 2 exponent.natAbs, denominator)
    else (numerator, denominator * Nat.pow 2 exponent.natAbs)

/-- The number nearest to a quotient with a sign. -/
def ofQuotient (negative : Bool) (numerator denominator : Nat) : Binary64 :=
  if numerator = 0 then zero negative
  else
    let exponent := unitExponent numerator denominator
    let (scaledNumerator, scaledDenominator) := unitExponent.scale numerator denominator exponent
    let significand := roundedQuotient scaledNumerator scaledDenominator
    let (significand, exponent) :=
      if significand = Nat.pow 2 53 then (Nat.pow 2 52, exponent + 1) else (significand, exponent)
    if greatestExponent < exponent then .infinite negative
    else .finite negative significand exponent

/-- The number nearest to a whole number, infinite if that is too large. -/
def ofInt (number : Int) : Binary64 := ofQuotient (number < 0) number.natAbs 1

/-- The number nearest to a coefficient times a power of ten. -/
def ofDecimal (negative : Bool) (coefficient : Nat) (exponent : Int) : Binary64 :=
  let magnitude : Int := exponent + (Numeral.digitsIn 10 coefficient).length
  if coefficient = 0 then zero negative
  else if magnitude < -400 then zero negative
  else if 400 < magnitude then .infinite negative
  else if exponent < 0 then ofQuotient negative coefficient (Nat.pow 10 exponent.natAbs)
  else ofQuotient negative (coefficient * Nat.pow 10 exponent.natAbs) 1

/-- A significand times a power of two as a quotient of natural numbers. -/
def quotient (significand : Nat) (exponent : Int) : Nat × Nat :=
  if exponent < 0 then (significand, Nat.pow 2 exponent.natAbs)
  else (significand * Nat.pow 2 exponent.natAbs, 1)

/-- The number nearest to a natural multiple. -/
def scaleBy (factor : Nat) : Binary64 → Binary64
  | .finite negative significand exponent =>
    let (numerator, denominator) := quotient significand exponent
    ofQuotient negative (numerator * factor) denominator
  | number => number

/-- Whether a number carries a minus sign; what is not a number carries none. -/
def isNegative : Binary64 → Bool
  | .finite negative _ _ => negative
  | .infinite negative => negative
  | .nan => false

/-- Reads the text of a decimal numeral without sign: digits, then a fraction and an exponent if
there are any. What is no digit, point or exponent mark is left out. -/
def ofNumeral (negative : Bool) (text : Text) : Binary64 :=
  let (mantissa, exponentText?) := splitExponent text
  let (whole, fraction?) := Text.cut '.' mantissa
  let fraction := (fraction?.getD []).filter CodePoint.isAsciiDigit
  let coefficient := Numeral.ofDigits (whole ++ fraction)
  let written : Int := match exponentText? with
    | some (.scalar '-' :: digits) => -(Numeral.ofDigits digits : Int)
    | some digits => Numeral.ofDigits digits
    | none => 0
  ofDecimal negative coefficient (written - fraction.length)
where
  /-- Cuts a numeral at its exponent mark. -/
  splitExponent (text : Text) : Text × Option Text :=
    match Text.cut 'e' text with
    | (mantissa, some exponent) => (mantissa, some exponent)
    | (_, none) => Text.cut 'E' text

end Binary64

end Phrasebook
