import Phrasebook.Text.CodePoint

/-!
# Sets of code points as ranges

A character property is stored as the list of the closed ranges of code point numbers that have it,
in increasing order.
-/

namespace Phrasebook.Unicode

/-- Closed ranges of code point numbers. -/
abbrev Ranges := List (Nat × Nat)

/-- Whether a code point lies in one of the ranges. -/
def Ranges.contains (ranges : Ranges) (point : CodePoint) : Bool :=
  ranges.any fun range => range.1 ≤ point.value && point.value ≤ range.2

end Phrasebook.Unicode
