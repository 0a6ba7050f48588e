import Phrasebook.Json.Reader

/-!
# Values that are nested too deep

A reader that may follow so many arrays into one another stops at the opening bracket of the next one,
whatever comes after it.
-/

namespace Phrasebook.Json

theorem skipSpace_of_bracket (rest : Text) : skipSpace (.scalar '[' :: rest) = .scalar '[' :: rest :=
  List.dropWhile_cons_of_neg (by decide)

theorem value_of_bracket (rest : Text) : value 0 (.scalar '[' :: rest) = .error .tooDeep := by
  rw [value.eq_2, if_pos rfl]

/-- An array that starts with an array stops where the inner one does. -/
theorem value_of_brackets {depth : Nat} {rest : Text} {stop : Stop}
    (stopped : value depth (.scalar '[' :: rest) = .error stop) :
    value (depth + 1) (.scalar '[' :: .scalar '[' :: rest) = .error stop := by
  have inner : items (depth + 1 - 1) (skipSpace (.scalar '[' :: rest)) = .error stop := by
    rw [skipSpace_of_bracket, Nat.add_sub_cancel, items, stopped]
  rw [value.eq_2, if_neg (Nat.succ_ne_zero depth)]
  split
  · rename_i closed
    rw [skipSpace_of_bracket] at closed
    cases closed
  · simp only [inner]

theorem value_of_nesting (depth : Nat) (rest : Text) :
    value depth (List.replicate (depth + 1) (.scalar '[') ++ rest) = .error .tooDeep := by
  induction depth with
  | zero => exact value_of_bracket rest
  | succ depth ih =>
    rw [List.replicate_succ, List.cons_append] at ih
    rw [List.replicate_succ, List.replicate_succ, List.cons_append, List.cons_append]
    exact value_of_brackets ih

/-- A text that starts with one opening bracket more than may be nested is not read. -/
theorem read_of_nesting [Host] (rest : Text) :
    read (List.replicate (Host.jsonDepth + 1) (.scalar '[') ++ rest) = .error .tooDeep := by
  have deep := value_of_nesting Host.jsonDepth rest
  rw [List.replicate_succ, List.cons_append] at deep ⊢
  have stopped : value Host.jsonDepth
      (skipSpace (.scalar '[' :: (List.replicate Host.jsonDepth (.scalar '[') ++ rest))) =
        .error .tooDeep := by
    rw [skipSpace_of_bracket, deep]
  rw [read, document.eq_2, stopped]
  · rfl
  · simp

end Phrasebook.Json
