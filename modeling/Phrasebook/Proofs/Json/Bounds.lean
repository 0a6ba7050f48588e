import Phrasebook.Proofs.Display
import Phrasebook.Proofs.Json.LongNumber
import Phrasebook.Proofs.Number.Numeral

/-!
# What can be read

The reader bounds what it reads: a value is nested no deeper than the reader follows, and no whole number in
it has more digits than can be converted. So a value from a text can be shown wherever a message shows what
stands two levels below the whole text.
-/

namespace Phrasebook

namespace Datum

/-- A value is nested no deeper than a number says, and holds no number that is too long. -/
def Bounded (depth : Nat) (value : Datum) : Prop := value.height ≤ depth ∧ ¬value.holdsLongInteger

/-- All items of a list are bounded. -/
def BoundedItems (depth : Nat) (items : List Datum) : Prop :=
  heightItems items ≤ depth ∧ ¬anyLongInteger items

/-- All fields of a record are bounded. -/
def BoundedFields (depth : Nat) (fields : Fields) : Prop :=
  heightFields fields ≤ depth ∧ ¬anyLongField fields

variable {depth : Nat} {value item : Datum} {items : List Datum} {fields : Fields}

theorem boundedItems_cons : BoundedItems depth (item :: items) ↔ item.Bounded depth ∧ BoundedItems depth items := by
  rw [BoundedItems, heightItems, Nat.max_le, anyLongInteger, Bool.or_eq_true, not_or]
  exact and_and_and_comm

theorem boundedFields_cons {name : Text} :
    BoundedFields depth ((name, value) :: fields) ↔ value.Bounded depth ∧ BoundedFields depth fields := by
  rw [BoundedFields, heightFields, Nat.max_le, anyLongField, Bool.or_eq_true, not_or]
  exact and_and_and_comm

theorem boundedItems_nil : BoundedItems depth [] := ⟨Nat.zero_le _, Bool.false_ne_true⟩

theorem boundedFields_nil : BoundedFields depth [] := ⟨Nat.zero_le _, Bool.false_ne_true⟩

theorem BoundedItems.list (inner : BoundedItems depth items) : (Datum.list items).Bounded (depth + 1) :=
  ⟨Nat.succ_le_succ inner.1, inner.2⟩

theorem BoundedFields.record (inner : BoundedFields depth fields) : (Datum.record fields).Bounded (depth + 1) :=
  ⟨Nat.succ_le_succ inner.1, inner.2⟩

theorem BoundedFields.put (others : BoundedFields depth fields) (bounded : value.Bounded depth) (name : Text) :
    BoundedFields depth (Fields.put name value fields) := by
  induction fields with
  | nil => exact boundedFields_cons.mpr ⟨bounded, others⟩
  | cons field rest ih =>
    have both := boundedFields_cons.mp others
    rw [Fields.put]
    split
    · exact boundedFields_cons.mpr ⟨bounded, both.2⟩
    · exact boundedFields_cons.mpr ⟨both.1, ih both.2⟩

/-- What is in a list is bounded by less than the list. -/
theorem Bounded.of_mem (bounded : (Datum.list items).Bounded depth) (member : item ∈ items) :
    ∃ inner < depth, item.Bounded inner := by
  have positive : 0 < depth := Nat.lt_of_lt_of_le (Nat.succ_pos _) bounded.1
  have inner : BoundedItems (depth - 1) items := ⟨Nat.le_sub_one_of_lt bounded.1, bounded.2⟩
  refine ⟨depth - 1, Nat.sub_one_lt_of_lt positive, ?_⟩
  clear bounded
  induction items with
  | nil => cases member
  | cons first rest ih =>
    have both := boundedItems_cons.mp inner
    rcases List.mem_cons.mp member with rfl | later
    · exact both.1
    · exact ih later both.2

/-- What is in a record is bounded by less than the record. -/
theorem Bounded.of_field (bounded : (Datum.record fields).Bounded depth) {name : Text}
    (given : fields.get? name = some value) : ∃ inner < depth, value.Bounded inner := by
  have positive : 0 < depth := Nat.lt_of_lt_of_le (Nat.succ_pos _) bounded.1
  have inner : BoundedFields (depth - 1) fields := ⟨Nat.le_sub_one_of_lt bounded.1, bounded.2⟩
  have member := Fields.mem_of_get? given
  refine ⟨depth - 1, Nat.sub_one_lt_of_lt positive, ?_⟩
  clear bounded given
  induction fields with
  | nil => cases member
  | cons first rest ih =>
    have both := boundedFields_cons.mp inner
    rcases List.mem_cons.mp member with rfl | later
    · exact both.1
    · exact ih both.2 later

theorem Bounded.obstacle?_eq_none (bounded : value.Bounded depth) {shown : Nat} (room : depth < shown) :
    value.obstacle? shown = none :=
  (Datum.obstacle?_eq_none value).mpr
    ⟨(levels_le value).trans (Nat.succ_le_of_lt (Nat.lt_of_le_of_lt bounded.1 room)), bounded.2⟩

end Datum

namespace Json

open Datum

/-! ### Values that are no arrays and no objects -/

theorem not_isTooLong_ofDigits {digits : Text} (short : digits.length ≤ digitLimit) {number : Int}
    (same : number.natAbs = Numeral.ofDigits digits) : ¬Numeral.isTooLong number := by
  rw [Numeral.isTooLong_iff, same, Nat.not_le]
  exact Nat.lt_of_lt_of_le (Numeral.ofDigits_lt digits) (Nat.pow_le_pow_right (by decide) short)

theorem unsigned_bounded (depth : Nat) {negative : Bool} {text : Text} {taken : Taken Datum text}
    (found : unsigned negative text = some (.ok taken)) : taken.value.Bounded depth := by
  unfold unsigned at found
  rcases Option.map_eq_some_iff.mp found with ⟨whole, _, read⟩
  simp only at read
  split at read
  · split at read
    · cases read
    · rename_i short
      cases read
      refine ⟨Nat.zero_le _, not_isTooLong_ofDigits (Nat.le_of_not_lt short) ?_⟩
      split
      · exact Int.natAbs_neg _
      · rfl
  · cases read
    exact ⟨Nat.zero_le _, Bool.false_ne_true⟩

theorem word?_bounded (depth : Nat) {text : Text} {names : List (Text × Datum)} {taken : Taken Datum text}
    (all : ∀ named ∈ names, named.2.Bounded depth) (found : word? text names = some taken) :
    taken.value.Bounded depth := by
  fun_induction word? text names with
  | case1 => cases found
  | case2 name value others rest start =>
    cases found
    exact all _ List.mem_cons_self
  | case3 name value others rest start short ih => exact ih (fun named member => all named (.tail _ member)) found
  | case4 name value others _ ih => exact ih (fun named member => all named (.tail _ member)) found

theorem words_bounded (depth : Nat) : ∀ named ∈ words, named.2.Bounded depth := by
  have all : ∀ named ∈ words, named.2.height = 0 ∧ ¬named.2.holdsLongInteger := by decide
  intro named member
  rcases all named member with ⟨flat, short⟩
  exact ⟨flat ▸ Nat.zero_le depth, short⟩

theorem number_bounded (depth : Nat) {text : Text} {taken : Taken Datum text} (found : number text = .ok taken) :
    taken.value.Bounded depth := by
  unfold number at found
  split at found
  · split at found
    · rename_i taken read
      have here : taken.value.Bounded depth := unsigned_bounded depth read
      cases found
      exact here
    · cases found
    · cases found
  · cases read : unsigned false text with
    | none =>
      rw [read] at found
      cases found
    | some result =>
      rw [read] at found
      cases found
      exact unsigned_bounded depth read

theorem atom_bounded (depth : Nat) {text : Text} {taken : Taken Datum text} (found : atom text = .ok taken) :
    taken.value.Bounded depth := by
  unfold atom at found
  split at found
  · rename_i read
    cases found
    exact word?_bounded depth (words_bounded depth) read
  · exact number_bounded depth found

/-! ### Values -/

/-- All readers of values read bounded ones from a text. -/
structure ReadBounded (text : Text) : Prop where
  value : ∀ depth taken, value depth text = .ok taken → taken.value.Bounded depth
  items : ∀ depth taken, items depth text = .ok taken → BoundedItems depth taken.value
  fields : ∀ depth read taken, BoundedFields depth read → fields depth read text = .ok taken →
    BoundedFields depth taken.value

section Steps

variable {text : Text} (below : ∀ rest, rest.length < text.length → ReadBounded rest)
include below

theorem value_bounded (depth : Nat) (taken : Taken Datum text) (found : value depth text = .ok taken) :
    taken.value.Bounded depth := by
  unfold value at found
  split at found
  · split at found
    · cases found
    · cases found
      exact ⟨Nat.zero_le _, Bool.false_ne_true⟩
  · rename_i rest
    have inner := below (skipSpace rest) ((skipSpace_length_le rest).trans_lt (Text.length_lt_cons _ rest))
    cases depth with
    | zero => cases found
    | succ depth =>
      rw [if_neg (Nat.succ_ne_zero depth), Nat.add_sub_cancel] at found
      split at found
      · cases found
        exact boundedItems_nil.list
      · simp only at found
        split at found
        · cases found
        · rename_i read
          cases found
          exact (inner.items depth _ read).list
  · rename_i rest
    have inner := below (skipSpace rest) ((skipSpace_length_le rest).trans_lt (Text.length_lt_cons _ rest))
    cases depth with
    | zero => cases found
    | succ depth =>
      rw [if_neg (Nat.succ_ne_zero depth), Nat.add_sub_cancel] at found
      split at found
      · cases found
        exact boundedFields_nil.record
      · simp only at found
        split at found
        · cases found
        · rename_i read
          cases found
          exact (inner.fields depth [] _ boundedFields_nil read).record
  · exact atom_bounded depth found

theorem items_bounded
    (first : ∀ depth (taken : Taken Datum text), value depth text = .ok taken → taken.value.Bounded depth)
    (depth : Nat) (taken : Taken (List Datum) text) (found : items depth text = .ok taken) :
    BoundedItems depth taken.value := by
  unfold items at found
  split at found
  · cases found
  · rename_i item read
    have here := first depth item read
    simp only at found
    split at found
    · cases found
      exact boundedItems_cons.mpr ⟨here, boundedItems_nil⟩
    · rename_i after ended
      have shorter : (skipSpace after).length < text.length := by
        have spaced := skipSpace_length_le item.rest
        have later := skipSpace_length_le after
        have taken := item.shorter
        rw [ended, List.length_cons] at spaced
        omega
      split at found
      · cases found
      · rename_i others
        cases found
        exact boundedItems_cons.mpr ⟨here, (below _ shorter).items depth _ others⟩
    · cases found

theorem fields_bounded (depth : Nat) (read : Fields) (taken : Taken Fields text)
    (before : BoundedFields depth read) (found : fields depth read text = .ok taken) :
    BoundedFields depth taken.value := by
  unfold fields at found
  split at found
  · rename_i rest
    split at found
    · cases found
    · rename_i name afterName named
      simp only at found
      split at found
      · rename_i afterColon separated
        have shorter : (skipSpace afterColon).length < rest.length := by
          have spaced := skipSpace_length_le afterName
          have later := skipSpace_length_le afterColon
          have name := stringBody_shorter named
          rw [separated, List.length_cons] at spaced
          omega
        have content := below _ (shorter.trans (Text.length_lt_cons _ rest))
        split at found
        · cases found
        · rename_i item valued
          have put := before.put (content.value depth item valued) name
          split at found
          · cases found
            exact put
          · rename_i after ended
            have later : (skipSpace after).length < rest.length := by
              have spaced := skipSpace_length_le item.rest
              have later := skipSpace_length_le after
              have taken := item.shorter
              rw [ended, List.length_cons] at spaced
              omega
            split at found
            · cases found
            · rename_i others
              cases found
              exact (below _ (later.trans (Text.length_lt_cons _ rest))).fields depth _ _ put others
          · cases found
      · cases found
  · cases found

end Steps

theorem readBounded (text : Text) : ReadBounded text := by
  induction size : text.length using Nat.strongRecOn generalizing text with
  | ind size ih =>
    subst size
    have below : ∀ rest, rest.length < text.length → ReadBounded rest :=
      fun rest shorter => ih _ shorter rest rfl
    have first := value_bounded below
    exact ⟨first, items_bounded below first, fields_bounded below⟩

/-- What is read from a text is nested no deeper than the reader follows, and holds no number that is too
long. -/
theorem bounded_of_read [Host] {text : Text} {data : Datum} (found : read text = .ok data) :
    data.Bounded Host.jsonDepth := by
  rw [read, Outcome.mapError_eq_ok] at found
  unfold document at found
  split at found
  · cases found
  · split at found
    · cases found
    · rename_i taken read
      split at found
      · cases found
        exact (readBounded _).value _ _ read
      · cases found

end Json

end Phrasebook
