import Phrasebook.Datum

/-!
# Values that a message can show

A message shows a value with all that it holds. Here is said without the order of a display which values it
can show: those that are nested no deeper than the display follows, and hold no whole number with too many
digits. Which obstacle is met first is left to the display.
-/

namespace Phrasebook

theorem Fields.mem_of_get? {fields : Fields} {name : Text} {value : Datum}
    (given : fields.get? name = some value) : (name, value) ∈ fields := by
  rcases List.lookup_eq_some_iff.mp given with ⟨_, _, rfl, _⟩
  exact List.mem_append_right _ List.mem_cons_self

namespace Datum

/-! ### How deep values are nested -/

mutual

/-- How deep lists and records are nested in a value. -/
def height : Datum → Nat
  | .list items => heightItems items + 1
  | .record fields => heightFields fields + 1
  | _ => 0

/-- How deep lists and records are nested in some items. -/
def heightItems : List Datum → Nat
  | [] => 0
  | item :: rest => max (height item) (heightItems rest)

/-- How deep lists and records are nested in some fields. -/
def heightFields : List (Text × Datum) → Nat
  | [] => 0
  | (_, value) :: rest => max (height value) (heightFields rest)

end

mutual

/-- How many levels a value has, that of the values in its innermost lists and records counted. -/
def levels : Datum → Nat
  | .list items => levelsItems items + 1
  | .record fields => levelsFields fields + 1
  | _ => 1

/-- How many levels some items have. -/
def levelsItems : List Datum → Nat
  | [] => 0
  | item :: rest => max (levels item) (levelsItems rest)

/-- How many levels some fields have. -/
def levelsFields : List (Text × Datum) → Nat
  | [] => 0
  | (_, value) :: rest => max (levels value) (levelsFields rest)

end

theorem height_le_of_mem {fields : Fields} {name : Text} {value : Datum} (listed : (name, value) ∈ fields) :
    value.height ≤ heightFields fields := by
  induction fields with
  | nil => cases listed
  | cons field rest ih =>
    rw [heightFields]
    rcases List.mem_cons.mp listed with rfl | later
    · exact Nat.le_max_left _ _
    · exact Nat.le_trans (ih later) (Nat.le_max_right _ _)

mutual

theorem levels_le (value : Datum) : value.levels ≤ value.height + 1 := by
  cases value with
  | list items => exact Nat.succ_le_succ (levelsItems_le items)
  | record fields => exact Nat.succ_le_succ (levelsFields_le fields)
  | null | bool | int | real | text | moment => exact Nat.le_refl 1

theorem levelsItems_le (items : List Datum) : levelsItems items ≤ heightItems items + 1 := by
  cases items with
  | nil => exact Nat.zero_le _
  | cons item rest =>
    have first := levels_le item
    have others := levelsItems_le rest
    rw [levelsItems, heightItems]
    omega

theorem levelsFields_le (fields : List (Text × Datum)) : levelsFields fields ≤ heightFields fields + 1 := by
  cases fields with
  | nil => exact Nat.zero_le _
  | cons field rest =>
    have first := levels_le field.2
    have others := levelsFields_le rest
    rw [levelsFields, heightFields]
    omega

end

/-! ### Obstacles to a display -/

mutual

/-- A value is displayed if it has no more levels than the display follows and holds no number that is too
long. -/
theorem obstacle?_eq_none {depth : Nat} (value : Datum) :
    value.obstacle? depth = none ↔ value.levels ≤ depth ∧ ¬value.holdsLongInteger := by
  cases depth with
  | zero => cases value <;> simp [obstacle?, levels]
  | succ depth =>
    cases value with
    | list items =>
      rw [obstacle?, levels, holdsLongInteger, Nat.succ_le_succ_iff]
      exact itemsObstacle?_eq_none items
    | record fields =>
      rw [obstacle?, levels, holdsLongInteger, Nat.succ_le_succ_iff]
      exact fieldsObstacle?_eq_none fields
    | int number => simp [obstacle?, levels, holdsLongInteger]
    | null | bool | real | text | moment => simp [obstacle?, levels, holdsLongInteger]

theorem itemsObstacle?_eq_none {depth : Nat} (items : List Datum) :
    itemsObstacle? depth items = none ↔ levelsItems items ≤ depth ∧ ¬anyLongInteger items := by
  cases items with
  | nil => simp [itemsObstacle?, levelsItems, anyLongInteger]
  | cons item rest =>
    rw [itemsObstacle?, Option.or_eq_none_iff, obstacle?_eq_none item, itemsObstacle?_eq_none rest, levelsItems,
      Nat.max_le, anyLongInteger, Bool.or_eq_true, not_or]
    exact and_and_and_comm

theorem fieldsObstacle?_eq_none {depth : Nat} (fields : List (Text × Datum)) :
    fieldsObstacle? depth fields = none ↔ levelsFields fields ≤ depth ∧ ¬anyLongField fields := by
  cases fields with
  | nil => simp [fieldsObstacle?, levelsFields, anyLongField]
  | cons field rest =>
    rw [fieldsObstacle?, Option.or_eq_none_iff, obstacle?_eq_none field.2, fieldsObstacle?_eq_none rest,
      levelsFields, Nat.max_le, anyLongField, Bool.or_eq_true, not_or]
    exact and_and_and_comm

end

mutual

/-- A value that is nested less deep than a display follows is not too deep for it. -/
theorem obstacle?_ne_tooDeep {depth : Nat} (value : Datum) (shallow : value.height < depth) :
    value.obstacle? depth ≠ some .tooDeep := by
  cases depth with
  | zero => exact absurd shallow (Nat.not_lt_zero _)
  | succ depth =>
    cases value with
    | list items => exact itemsObstacle?_ne_tooDeep items (Nat.lt_of_succ_lt_succ shallow)
    | record fields => exact fieldsObstacle?_ne_tooDeep fields (Nat.lt_of_succ_lt_succ shallow)
    | int number =>
      rw [obstacle?]
      split <;> nofun
    | null | bool | real | text | moment => nofun

theorem itemsObstacle?_ne_tooDeep {depth : Nat} (items : List Datum) (shallow : heightItems items < depth) :
    itemsObstacle? depth items ≠ some .tooDeep := by
  cases items with
  | nil => nofun
  | cons item rest =>
    rw [heightItems, Nat.max_lt] at shallow
    rw [itemsObstacle?, ne_eq, Option.or_eq_some_iff, not_or]
    exact ⟨obstacle?_ne_tooDeep item shallow.1, fun both => itemsObstacle?_ne_tooDeep rest shallow.2 both.2⟩

theorem fieldsObstacle?_ne_tooDeep {depth : Nat} (fields : List (Text × Datum))
    (shallow : heightFields fields < depth) : fieldsObstacle? depth fields ≠ some .tooDeep := by
  cases fields with
  | nil => nofun
  | cons field rest =>
    rw [heightFields, Nat.max_lt] at shallow
    rw [fieldsObstacle?, ne_eq, Option.or_eq_some_iff, not_or]
    exact ⟨obstacle?_ne_tooDeep field.2 shallow.1, fun both => fieldsObstacle?_ne_tooDeep rest shallow.2 both.2⟩

end

/-! ### Lists in lists -/

/-- A list in lists, as many as a number says. -/
def nested : Nat → Datum
  | 0 => .list []
  | depth + 1 => .list [nested depth]

/-- A list in as many lists as a display follows is too deep for it. -/
theorem obstacle?_nested (depth : Nat) : (nested depth).obstacle? depth = some .tooDeep := by
  induction depth with
  | zero => rfl
  | succ depth ih => rw [nested, obstacle?, itemsObstacle?, ih, Option.some_or]

end Datum

end Phrasebook
