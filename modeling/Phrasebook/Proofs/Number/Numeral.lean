import Mathlib.Algebra.Ring.Nat
import Mathlib.Data.List.Basic
import Mathlib.Data.List.Induction
import Phrasebook.Number.Numeral
import Phrasebook.Proofs.Text.Split

/-!
# Numerals read back

The digits that are written for a number are those of the number, so that it is read back from them. A
number ends where its digits do, as long as no other digit follows.
-/

namespace Phrasebook.Numeral

/-! ### Digits -/

theorem value_append (digits : List Nat) (last : Nat) :
    value (digits ++ [last]) = value digits * 10 + last := by
  simp [value]

/-- The digits of a number stand in front of those already found. -/
theorem go_spec (number : Nat) (found : List Nat) :
    ∃ digits, digitsIn.go 10 number found = digits ++ found ∧ value digits = number := by
  induction number using Nat.strongRecOn generalizing found with
  | ind number ih =>
    rw [digitsIn.go]
    split
    · rcases ih (number / 10) (by omega) (number % 10 :: found) with ⟨digits, spelled, same⟩
      refine ⟨digits ++ [number % 10], by simp [spelled], ?_⟩
      rw [value_append, same]
      omega
    · exact ⟨[number], rfl, by simp [value]⟩

theorem value_digitsIn (number : Nat) : value (digitsIn 10 number) = number := by
  rcases go_spec number [] with ⟨digits, spelled, same⟩
  rw [digitsIn, spelled, List.append_nil, same]

theorem go_lt {base : Nat} (wide : 2 ≤ base) (number : Nat) {found : List Nat}
    (small : ∀ digit ∈ found, digit < base) :
    ∀ digit ∈ digitsIn.go base number found, digit < base := by
  fun_induction digitsIn.go base number found with
  | case1 number found _ ih =>
    apply ih
    rw [List.forall_mem_cons]
    exact ⟨Nat.mod_lt _ (by omega), small⟩
  | case2 number found last =>
    rw [List.forall_mem_cons]
    exact ⟨by omega, small⟩

theorem digitsIn_lt {base : Nat} (wide : 2 ≤ base) (number : Nat) :
    ∀ digit ∈ digitsIn base number, digit < base :=
  go_lt wide number (by simp)

/-- A number below a power of the base has no more digits than the power says. -/
theorem length_go_le {base : Nat} (number : Nat) (found : List Nat) {width : Nat}
    (small : number < base ^ (width + 1)) :
    (digitsIn.go base number found).length ≤ width + 1 + found.length := by
  fun_induction digitsIn.go base number found generalizing width with
  | case1 number found long ih =>
    cases width with
    | zero =>
      rw [Nat.zero_add, pow_one] at small
      omega
    | succ width =>
      rw [pow_succ'] at small
      have shorter : number / base < base ^ (width + 1) := Nat.div_lt_of_lt_mul small
      have spelled := ih shorter
      rw [List.length_cons] at spelled
      omega
  | case2 number found last =>
    rw [List.length_cons]
    omega

/-- A number that is small enough is padded to exactly the width. -/
theorem length_padded {base width number : Nat} (small : number < base ^ (width + 1)) :
    (padded base (width + 1) number).length = width + 1 := by
  have few := length_go_le number [] small
  simp only [padded, inBase, digitsIn, List.length_append, List.length_replicate, List.length_map]
  rw [List.length_nil] at few
  omega

theorem digit?_digit {value : Nat} (small : value < 10) : (digit value).digit? = some value := by
  have all : ∀ value : Fin 10, (digit value).digit? = some value.val := by decide
  exact all ⟨value, small⟩

/-- The digits of hexadecimal numbers. -/
def hexDigits : Text := "0123456789abcdef"

theorem mem_hexDigits_of_mem_padded {width number : Nat} :
    ∀ point ∈ padded 16 width number, point ∈ hexDigits := by
  have all : ∀ value : Fin 16, digit value ∈ hexDigits := by decide
  rw [padded, List.forall_mem_append]
  constructor
  · intro point member
    rw [List.eq_of_mem_replicate member]
    decide
  · intro point member
    rcases List.mem_map.mp member with ⟨value, found, rfl⟩
    exact all ⟨value, digitsIn_lt (by decide) number value found⟩

/-! ### Decimal numbers -/

theorem isAsciiDigit_of_mem_natural (number : Nat) :
    ∀ point ∈ natural number, point.isAsciiDigit := by
  intro point written
  rcases List.mem_map.mp written with ⟨digit, found, rfl⟩
  simp [CodePoint.isAsciiDigit, digit?_digit (digitsIn_lt (by decide) number digit found)]

theorem filterMap_digit?_inBase (number : Nat) :
    (inBase 10 number).filterMap CodePoint.digit? = digitsIn 10 number := by
  rw [inBase, List.filterMap_map]
  calc
    (digitsIn 10 number).filterMap (CodePoint.digit? ∘ digit) =
        (digitsIn 10 number).filterMap some := by
      apply List.filterMap_congr
      intro digit found
      exact digit?_digit (digitsIn_lt (by decide) number digit found)
    _ = digitsIn 10 number := List.filterMap_some

/-- A number is read back from its digits. -/
theorem ofDigits_natural (number : Nat) : ofDigits (natural number) = number := by
  rw [ofDigits, natural, filterMap_digit?_inBase, value_digitsIn]

/-- Zeros in front of a number do not count. -/
theorem ofDigits_padded (width number : Nat) : ofDigits (padded 10 width number) = number := by
  have zero : CodePoint.digit? (.scalar '0') = some 0 := by decide
  have zeros (count : Nat) :
      (List.replicate count 0).foldl (fun total digit => total * 10 + digit) 0 = 0 := by
    induction count with
    | zero => rfl
    | succ count ih => rw [List.replicate_succ, List.foldl_cons, ih]
  rw [ofDigits, padded, List.filterMap_append, List.filterMap_replicate_of_some zero,
    filterMap_digit?_inBase, value, List.foldl_append, zeros]
  exact value_digitsIn number

/-- A number is told from what is written for it, as long as no digit follows. -/
theorem natural_append_inj {first second : Nat} {after others : Text}
    (ends : ∀ point ∈ after.head?, ¬point.isAsciiDigit)
    (otherEnds : ∀ point ∈ others.head?, ¬point.isAsciiDigit) :
    natural first ++ after = natural second ++ others ↔ first = second ∧ after = others := by
  constructor
  · intro same
    have digits := takeWhile_exact (isAsciiDigit_of_mem_natural first) ends
    rw [same, takeWhile_exact (isAsciiDigit_of_mem_natural second) otherEnds] at digits
    have numbers : first = second := by
      rw [← ofDigits_natural first, ← digits, ofDigits_natural]
    subst numbers
    exact ⟨rfl, List.append_cancel_left same⟩
  · rintro ⟨rfl, rfl⟩
    rfl

/-! ### Many digits -/

theorem value_lt {digits : List Nat} (small : ∀ digit ∈ digits, digit < 10) :
    value digits < 10 ^ digits.length := by
  induction digits using List.reverseRecOn with
  | nil => decide
  | append_singleton digits last ih =>
    rw [List.forall_mem_append, List.forall_mem_singleton] at small
    have before := ih small.1
    rw [value_append, List.length_append, List.length_singleton, pow_succ]
    omega

theorem digit?_lt {point : CodePoint} {value : Nat} (isDigit : point.digit? = some value) : value < 10 := by
  unfold CodePoint.digit? at isDigit
  split at isDigit <;> grind

/-- A text has no fewer characters than the number that it writes has digits. -/
theorem ofDigits_lt (text : Text) : ofDigits text < 10 ^ text.length := by
  have small : ∀ digit ∈ text.filterMap CodePoint.digit?, digit < 10 := by
    intro digit written
    rcases List.mem_filterMap.mp written with ⟨point, _, isDigit⟩
    exact digit?_lt isDigit
  exact Nat.lt_of_lt_of_le (value_lt small)
    (Nat.pow_le_pow_right (by decide) (List.length_filterMap_le _ _))

/-- The digits that are written for a number are no more than it needs. -/
theorem lt_length_natural_iff {number width : Nat} (positive : 0 < width) :
    width < (natural number).length ↔ 10 ^ width ≤ number := by
  rw [← not_iff_not, Nat.not_lt, Nat.not_le]
  constructor
  · intro short
    have bound := ofDigits_lt (natural number)
    rw [ofDigits_natural] at bound
    exact Nat.lt_of_lt_of_le bound (Nat.pow_le_pow_right (by decide) short)
  · intro small
    cases width with
    | zero => exact absurd positive (Nat.lt_irrefl 0)
    | succ width =>
      rw [natural, inBase, List.length_map]
      exact length_go_le number [] small

theorem isTooLong_iff (number : Int) : isTooLong number ↔ 10 ^ digitLimit ≤ number.natAbs := by
  rw [isTooLong, decide_eq_true_eq]
  exact lt_length_natural_iff (by decide)

end Phrasebook.Numeral
