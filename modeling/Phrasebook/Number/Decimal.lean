import Phrasebook.Number.Binary64

/-!
# Decimal digits of binary numbers

The decimal digits under which a binary number is written: rounded to a count of significant digits,
rounded to a count of places, or the fewest that still identify the number among all others. All
three are exact arithmetic on quotients of natural numbers.
-/

namespace Phrasebook

/-- A decimal number `0.d₁d₂…` times ten to the power `point`; the digits stand most significant
first, and the point follows the digit of that index. -/
structure Decimal where
  digits : List Nat
  point : Int
deriving DecidableEq, Repr

namespace Decimal

/-- Zero, written with one digit before the point. -/
def zero : Decimal := ⟨[0], 1⟩

/-- The decimal of a coefficient times a power of ten. -/
def ofCoefficient (coefficient : Nat) (exponent : Int) : Decimal :=
  let digits := Numeral.digitsIn 10 coefficient
  ⟨digits, digits.length + exponent⟩

/-- Drops the zeros at the end of the digits, but not the first digit. -/
def trimmed (decimal : Decimal) : Decimal :=
  match (decimal.digits.reverse.dropWhile (· == 0)).reverse with
  | [] => { decimal with digits := decimal.digits.take 1 }
  | digits => { decimal with digits }

/-- The exponent of ten of the leading digit of a positive quotient. -/
def leadingExponent (numerator denominator : Nat) : Int :=
  if denominator ≤ numerator then
    ((Numeral.digitsIn 10 (numerator / denominator)).length : Int) - 1
  else
    let places := (Numeral.digitsIn 10 (denominator / numerator)).length - 1
    if denominator ≤ numerator * Nat.pow 10 places then -(places : Int) else -(places : Int) - 1

/-- A quotient in units of a power of ten. -/
def inUnits (numerator denominator : Nat) (exponent : Int) : Nat × Nat :=
  if exponent < 0 then (numerator * Nat.pow 10 exponent.natAbs, denominator)
  else (numerator, denominator * Nat.pow 10 exponent.natAbs)

/-- A positive quotient rounded to a count of significant digits, at least one. Rounding up to the next
power of ten makes one digit more, a zero that is dropped. -/
def ofQuotientSignificant (count numerator denominator : Nat) : Decimal :=
  let unit := leadingExponent numerator denominator - ((count : Int) - 1)
  let (scaledNumerator, scaledDenominator) := inUnits numerator denominator unit
  let rounded := ofCoefficient (roundedQuotient scaledNumerator scaledDenominator) unit
  { rounded with digits := rounded.digits.take count }

/-- A quotient rounded to a count of places after the point. -/
def ofQuotientPlaces (places numerator denominator : Nat) : Decimal :=
  let (scaledNumerator, scaledDenominator) := inUnits numerator denominator (-(places : Int))
  ofCoefficient (roundedQuotient scaledNumerator scaledDenominator) (-(places : Int))

/-- The open or closed interval of quotients that are nearest to a given binary number, as bounds in
units of `2 ^ unit`. -/
structure Neighbourhood where
  lower : Nat
  upper : Nat
  unit : Int
  closed : Bool

/-- The quotients that round to a positive number. The interval reaches half way to the neighbours,
and holds its ends if the significand is even. -/
def Neighbourhood.of (significand : Nat) (exponent : Int) : Neighbourhood :=
  let below := if significand = Nat.pow 2 52 ∧ Binary64.leastExponent < exponent then 1 else 2
  { lower := 4 * significand - below
    upper := 4 * significand + 2
    unit := exponent - 2
    closed := significand % 2 == 0 }

/-- Whether a coefficient times a power of ten lies in a neighbourhood. -/
def Neighbourhood.contains (neighbourhood : Neighbourhood) (coefficient : Nat) (exponent : Int) :
    Bool :=
  let (twos, twosBelow) := Binary64.quotient 1 neighbourhood.unit
  let (tens, tensBelow) := inUnits 1 1 (-exponent)
  let middle := coefficient * tens * twosBelow
  let lower := neighbourhood.lower * twos * tensBelow
  let upper := neighbourhood.upper * twos * tensBelow
  if neighbourhood.closed then lower ≤ middle && middle ≤ upper
  else lower < middle && middle < upper

/-- The decimal with a count of significant digits that identifies a positive number: the nearer of
its two neighbours on that grid, the even one if both are equally near. -/
def identifying? (significand : Nat) (exponent : Int) (count : Nat) : Option Decimal :=
  let (numerator, denominator) := Binary64.quotient significand exponent
  let unit := leadingExponent numerator denominator - ((count : Int) - 1)
  let (scaledNumerator, scaledDenominator) := inUnits numerator denominator unit
  let neighbourhood := Neighbourhood.of significand exponent
  let below := scaledNumerator / scaledDenominator
  let nearest := roundedQuotient scaledNumerator scaledDenominator
  let other := if nearest = below then below + 1 else below
  if neighbourhood.contains nearest unit then some (ofCoefficient nearest unit)
  else if neighbourhood.contains other unit then some (ofCoefficient other unit)
  else none

/-- The fewest digits that identify a positive number; seventeen always do. -/
def shortest (significand : Nat) (exponent : Int) : Decimal :=
  let found := (List.range 17).findSome? fun index =>
    identifying? significand exponent (index + 1)
  let (numerator, denominator) := Binary64.quotient significand exponent
  (found.getD (ofQuotientSignificant 17 numerator denominator)).trimmed

/-! ### Writing a decimal -/

/-- How the digits of a decimal are set out. -/
structure Layout where
  /-- The least number of digits after the point. -/
  places : Nat
  /-- Whether the point is written when no digit follows it. -/
  keepPoint : Bool

/-- The digits as characters. -/
def characters (digits : List Nat) : Text := digits.map Numeral.digit

/-- Joins whole part and fraction. -/
def withFraction (layout : Layout) (whole fraction : List Nat) : Text :=
  let fraction := fraction ++ List.replicate (layout.places - fraction.length) 0
  let point : Text := if fraction.isEmpty && !layout.keepPoint then [] else [.scalar '.']
  characters whole ++ point ++ characters fraction

/-- Writes a decimal without an exponent. -/
def positional (layout : Layout) (decimal : Decimal) : Text :=
  if decimal.point ≤ 0 then
    withFraction layout [0] (List.replicate decimal.point.natAbs 0 ++ decimal.digits)
  else
    let count := decimal.point.toNat
    let padding := List.replicate (count - decimal.digits.length) 0
    withFraction layout (decimal.digits.take count ++ padding) (decimal.digits.drop count)

/-- Writes a decimal with one digit before the point and an exponent of at least two digits. -/
def scientific (layout : Layout) (decimal : Decimal) : Text :=
  let exponent := decimal.point - 1
  let sign : CodePoint := if exponent < 0 then '-' else '+'
  withFraction layout (decimal.digits.take 1) (decimal.digits.drop 1) ++
    .scalar 'e' :: sign :: Numeral.padded 10 2 exponent.natAbs

end Decimal

namespace Binary64

/-- The decimal that identifies the size of a finite number. -/
def shortestDecimal (significand : Nat) (exponent : Int) : Decimal :=
  if significand = 0 then Decimal.zero else Decimal.shortest significand exponent

/-- Writes a number with the fewest digits that identify it: positionally from `0.0001` up to below
`10 ^ 16`, with one digit after the point at least, and with an exponent outside that range. -/
def render : Binary64 → Text
  | .nan => "nan"
  | .infinite negative => if negative then "-inf" else "inf"
  | .finite negative significand exponent =>
    let decimal := shortestDecimal significand exponent
    let sign : Text := if negative then [.scalar '-'] else []
    sign ++
      if decimal.point ≤ -4 ∨ 16 < decimal.point then decimal.scientific ⟨0, false⟩
      else decimal.positional ⟨1, false⟩

end Binary64

end Phrasebook
