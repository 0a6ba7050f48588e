import Phrasebook.Text.Basic

/-!
# Taking from the front of a text

What a reader takes from a text: a value, and a rest that is shorter than the text. Readers that hand
back such rests end, because no text can be shortened for ever.
-/

namespace Phrasebook

namespace Text

theorem length_le_self (text : Text) : text.length ≤ text.length := Nat.le_refl _

theorem length_lt_cons (first : CodePoint) (rest : Text) : rest.length < (first :: rest).length :=
  Nat.lt_succ_self _

theorem length_le_cons (first : CodePoint) (rest : Text) : rest.length ≤ (first :: rest).length :=
  Nat.le_succ _

theorem length_le_cons_cons (first second : CodePoint) (rest : Text) :
    rest.length ≤ (first :: second :: rest).length :=
  Nat.le_add_right _ 2

/-- What follows the head of a text is shorter than all that is as long as the text. -/
theorem length_lt_of_eq_cons {first : CodePoint} {rest whole text : Text}
    (opened : whole = first :: rest) (bound : whole.length ≤ text.length) :
    rest.length < text.length := by
  subst opened
  exact bound

end Text

/-- A value read from the front of a text, and the rest of the text. -/
structure Taken (α : Type) (text : Text) where
  value : α
  rest : Text
  shorter : rest.length < text.length

namespace Taken

/-- What was taken from the tail of a text was taken from the text. -/
def afterHead {α : Type} {first : CodePoint} {text : Text} (taken : Taken α text) :
    Taken α (first :: text) :=
  ⟨taken.value, taken.rest, Nat.lt_succ_of_lt taken.shorter⟩

/-- Changes the value. -/
def map {α β : Type} {text : Text} (change : α → β) (taken : Taken α text) : Taken β text :=
  ⟨change taken.value, taken.rest, taken.shorter⟩

end Taken

end Phrasebook
