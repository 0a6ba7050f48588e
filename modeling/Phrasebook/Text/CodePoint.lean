/-!
# Code points

The characters of resource texts. A document may escape half of a surrogate pair on its own, so a
text is made of code points and not only of the scalar values that `Char` holds. The two kinds are
kept apart by the type: a text without surrogates is one built from scalars, and only such a text
has a UTF-8 encoding.
-/

namespace Phrasebook

/-- A Unicode code point: a scalar value, or one of the 2048 surrogates. -/
inductive CodePoint where
  | scalar (char : Char)
  | surrogate (offset : Fin 2048)
deriving DecidableEq, Repr, Inhabited

namespace CodePoint

instance : Coe Char CodePoint := ⟨.scalar⟩

/-- The number of a code point, below `0x110000`. -/
def value : CodePoint → Nat
  | .scalar char => char.toNat
  | .surrogate offset => 0xD800 + offset.val

/-- The code point with a given number, if there is one. -/
def ofNat? (number : Nat) : Option CodePoint :=
  if high : 0xD800 ≤ number ∧ number < 0xE000 then
    some (.surrogate ⟨number - 0xD800, by omega⟩)
  else if valid : number.isValidChar then
    some (.scalar (Char.ofNatAux number valid))
  else none

/-- Whether a code point is half of a surrogate pair. -/
def isSurrogate : CodePoint → Bool
  | .scalar _ => false
  | .surrogate _ => true

/-- Whether a code point stands for nothing in the path of a file. A surrogate from `0xDC80` to `0xDCFF`
stands there for a byte that is no UTF-8. -/
def hasNoByte : CodePoint → Bool
  | .scalar _ => false
  | .surrogate offset => offset.val < 0x480 || 0x4FF < offset.val

/-- Whether a code point stands for a high (leading) surrogate. -/
def isHighSurrogate (point : CodePoint) : Bool :=
  0xD800 ≤ point.value && point.value < 0xDC00

/-- The order of code points is the order of their numbers. -/
instance : LE CodePoint := ⟨fun first second => first.value ≤ second.value⟩

instance : LT CodePoint := ⟨fun first second => first.value < second.value⟩

instance (first second : CodePoint) : Decidable (first ≤ second) :=
  inferInstanceAs (Decidable (first.value ≤ second.value))

instance (first second : CodePoint) : Decidable (first < second) :=
  inferInstanceAs (Decidable (first.value < second.value))

/-- The value of an ASCII digit. -/
def digit? (point : CodePoint) : Option Nat :=
  if 0x30 ≤ point.value ∧ point.value ≤ 0x39 then some (point.value - 0x30) else none

/-- Whether a code point is one of the ten ASCII digits. -/
def isAsciiDigit (point : CodePoint) : Bool := point.digit?.isSome

/-- Whether a code point is an ASCII letter. -/
def isAsciiLetter (point : CodePoint) : Bool :=
  (0x41 ≤ point.value && point.value ≤ 0x5A) || (0x61 ≤ point.value && point.value ≤ 0x7A)

/-- The value of a hexadecimal digit in either case. -/
def hexDigit? (point : CodePoint) : Option Nat :=
  if 0x30 ≤ point.value ∧ point.value ≤ 0x39 then some (point.value - 0x30)
  else if 0x41 ≤ point.value ∧ point.value ≤ 0x46 then some (point.value - 0x37)
  else if 0x61 ≤ point.value ∧ point.value ≤ 0x66 then some (point.value - 0x57)
  else none

end CodePoint

end Phrasebook
