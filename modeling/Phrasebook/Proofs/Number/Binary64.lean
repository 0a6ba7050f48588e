import Mathlib.Tactic.Ring
import Phrasebook.Number.Binary64

/-!
# Whole numbers past the greatest binary number

A whole number is rounded to a significand of 53 bits. It is rounded past the greatest finite number
from half way on to the next power of two; half way itself belongs to the power of two, whose significand
is the even one.
-/

namespace Phrasebook

/-- A quotient below an even whole number is rounded up to it from half way on. -/
theorem roundedQuotient_eq_bound {numerator denominator bound : Nat} (positive : 0 < denominator)
    (even : bound % 2 = 0) (below : numerator < bound * denominator) :
    roundedQuotient numerator denominator = bound ↔
      (2 * bound - 1) * denominator ≤ 2 * numerator := by
  have split := Nat.div_add_mod numerator denominator
  have remainder := Nat.mod_lt numerator positive
  have quotient : numerator / denominator < bound := (Nat.div_lt_iff_lt_mul positive).mpr below
  unfold roundedQuotient
  generalize numerator / denominator = whole at *
  generalize numerator % denominator = rest at *
  rcases Nat.exists_eq_add_of_lt quotient with ⟨gap, rfl⟩
  have bounds : (2 * (whole + gap + 1) - 1) * denominator =
      2 * (denominator * whole) + 2 * (gap * denominator) + denominator := by
    rw [show 2 * (whole + gap + 1) - 1 = 2 * whole + 2 * gap + 1 by omega]
    ring
  rw [bounds, ← split]
  rcases gap with _ | gap
  · dsimp only
    split
    · omega
    · split <;> omega
  · have : denominator ≤ (gap + 1) * denominator := Nat.le_mul_of_pos_left _ (Nat.succ_pos gap)
    dsimp only
    split
    · omega
    · split <;> omega

namespace Binary64

/-- The number half way between the greatest finite number and the next power of two. -/
def halfPastGreatest : Nat := (2 ^ 54 - 1) * 2 ^ 970

variable {number : Nat}

theorem scale_of_natCast (number exponent : Nat) :
    unitExponent.scale number 1 exponent = (number, 2 ^ exponent) := by
  rw [unitExponent.scale, if_neg (by omega), Int.natAbs_natCast, Nat.one_mul]
  rfl

theorem scale_of_neg_natCast (number exponent : Nat) :
    unitExponent.scale number 1 (-exponent) = (number * 2 ^ exponent, 1) := by
  rcases exponent with _ | exponent
  · rw [Nat.pow_zero, Nat.mul_one]
    exact scale_of_natCast number 0
  · rw [unitExponent.scale, if_pos (by omega), Int.natAbs_neg, Int.natAbs_natCast]
    rfl

/-- The last significant bit of a whole number stands 52 places below the first one. -/
theorem unitExponent_one (positive : number ≠ 0) :
    unitExponent number 1 = (number.log2 : Int) - 52 := by
  have first := Nat.log2_self_le positive
  have significant : ¬(unitExponent.scale number 1 ((number.log2 : Int) - 52)).1 /
      (unitExponent.scale number 1 ((number.log2 : Int) - 52)).2 < Nat.pow 2 52 := by
    rw [Nat.not_lt]
    change 2 ^ 52 ≤ _
    rcases Nat.le_total 52 number.log2 with long | short
    · rcases Nat.exists_eq_add_of_le long with ⟨exponent, same⟩
      rw [same, show ((52 + exponent : Nat) : Int) - 52 = exponent by omega, scale_of_natCast]
      rw [same, Nat.pow_add] at first
      exact (Nat.le_div_iff_mul_le (Nat.two_pow_pos exponent)).mpr first
    · rcases Nat.exists_eq_add_of_le short with ⟨exponent, same⟩
      rw [show (number.log2 : Int) - 52 = -exponent by omega, scale_of_neg_natCast, Nat.div_one]
      rw [same, Nat.pow_add]
      exact Nat.mul_le_mul_right _ first
  have one : Nat.log2 1 = 0 := by decide
  unfold unitExponent
  simp only [one, Nat.cast_zero, Int.sub_zero, if_neg significant, leastExponent]
  omega

/-- The significand of a whole number. -/
def significand (number : Nat) : Nat :=
  let (numerator, denominator) := unitExponent.scale number 1 ((number.log2 : Int) - 52)
  roundedQuotient numerator denominator

theorem ofQuotient_one_eq_infinite (positive : number ≠ 0) (negative : Bool) :
    (∃ sign, ofQuotient negative number 1 = .infinite sign) ↔
      1024 ≤ number.log2 ∨ number.log2 = 1023 ∧ significand number = 2 ^ 53 := by
  have power : Nat.pow 2 53 = 2 ^ 53 := rfl
  simp only [ofQuotient, if_neg positive, unitExponent_one positive, power, greatestExponent]
  change (∃ sign, (if 971 < (if significand number = 2 ^ 53 then (Nat.pow 2 52, _)
    else (significand number, _)).2 then _ else _) = _) ↔ _
  split
  · dsimp only
    split <;> simp <;> omega
  · dsimp only
    split <;> simp <;> omega

theorem significand_eq {exponent : Nat} (digits : number.log2 = 52 + exponent) :
    significand number = roundedQuotient number (2 ^ exponent) := by
  rw [significand, digits, show ((52 + exponent : Nat) : Int) - 52 = exponent by omega,
    scale_of_natCast]

theorem significand_eq_bound {exponent : Nat} (digits : number.log2 = 53 + exponent) :
    significand number = 2 ^ 53 ↔ (2 ^ 54 - 1) * 2 ^ exponent ≤ number := by
  have below : number < 2 ^ 53 * 2 ^ (exponent + 1) := by
    have last := Nat.lt_log2_self (n := number)
    rwa [digits, Nat.add_assoc, Nat.pow_add] at last
  rw [significand_eq (show number.log2 = 52 + (exponent + 1) by omega),
    roundedQuotient_eq_bound (Nat.two_pow_pos _) (by decide) below]
  have doubled : 2 ^ (exponent + 1) = 2 * 2 ^ exponent := Nat.pow_succ'
  rw [doubled, Nat.mul_left_comm]
  exact Nat.mul_le_mul_left_iff two_pos

theorem threshold_le {exponent : Nat} (positive : number ≠ 0)
    (long : 54 + exponent ≤ number.log2) : (2 ^ 54 - 1) * 2 ^ exponent ≤ number :=
  calc (2 ^ 54 - 1) * 2 ^ exponent
    _ ≤ 2 ^ 54 * 2 ^ exponent := Nat.mul_le_mul_right _ (by decide)
    _ = 2 ^ (54 + exponent) := (Nat.pow_add 2 54 exponent).symm
    _ ≤ 2 ^ number.log2 := Nat.pow_le_pow_right two_pos long
    _ ≤ number := Nat.log2_self_le positive

theorem lt_threshold {exponent : Nat} (short : number.log2 < 53 + exponent) :
    number < (2 ^ 54 - 1) * 2 ^ exponent :=
  calc number
    _ < 2 ^ (number.log2 + 1) := Nat.lt_log2_self
    _ ≤ 2 ^ (53 + exponent) := Nat.pow_le_pow_right two_pos short
    _ = 2 ^ 53 * 2 ^ exponent := Nat.pow_add 2 53 exponent
    _ ≤ (2 ^ 54 - 1) * 2 ^ exponent := Nat.mul_le_mul_right _ (by decide)

/-- A whole number is rounded past the greatest finite number exactly from half way on to the next power
of two. -/
theorem ofInt_eq_infinite {number : Int} :
    (∃ sign, ofInt number = .infinite sign) ↔ halfPastGreatest ≤ number.natAbs := by
  unfold ofInt halfPastGreatest
  generalize decide (number < 0) = negative
  generalize number.natAbs = size
  by_cases positive : size = 0
  · have below : size < (2 ^ 54 - 1) * 2 ^ 970 := lt_threshold (by rw [positive]; decide)
    rw [iff_false_right (Nat.not_le.mpr below), positive]
    rintro ⟨_, infinite⟩
    cases infinite
  rw [ofQuotient_one_eq_infinite positive]
  constructor
  · rintro (large | ⟨digits, bound⟩)
    · exact threshold_le positive large
    · exact (significand_eq_bound digits).mp bound
  · intro far
    rcases Nat.lt_trichotomy size.log2 1023 with small | digits | large
    · exact absurd far (Nat.not_le.mpr (lt_threshold small))
    · exact Or.inr ⟨digits, (significand_eq_bound digits).mpr far⟩
    · exact Or.inl large

end Binary64

end Phrasebook
