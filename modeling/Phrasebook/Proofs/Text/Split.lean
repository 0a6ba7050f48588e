import Phrasebook.Text.Basic

/-!
# Cutting and joining

Cutting a text at every separator and joining pieces with it undo each other as long as no piece holds
the separator. Both are the operations on lists of the standard library. A span of values with a property
is cut off exactly if a value without it follows.
-/

namespace Phrasebook

section Spans

variable {α : Type} {isInside : α → Bool} {inside rest : List α}

theorem takeWhile_exact (all : ∀ value ∈ inside, isInside value)
    (stop : ∀ value ∈ rest.head?, ¬isInside value) :
    (inside ++ rest).takeWhile isInside = inside := by
  rw [List.takeWhile_append_of_pos all]
  cases rest with
  | nil => simp
  | cons value rest => simp [stop value rfl]

theorem dropWhile_exact (all : ∀ value ∈ inside, isInside value)
    (stop : ∀ value ∈ rest.head?, ¬isInside value) :
    (inside ++ rest).dropWhile isInside = rest := by
  rw [List.dropWhile_append_of_pos all]
  cases rest with
  | nil => rfl
  | cons value rest => simp [stop value rfl]

/-- A span and what follows it are found again in what they make together. -/
theorem append_eq_append_iff_of_exact {other after : List α} (all : ∀ value ∈ inside, isInside value)
    (stop : ∀ value ∈ rest.head?, ¬isInside value) (otherAll : ∀ value ∈ other, isInside value)
    (otherStop : ∀ value ∈ after.head?, ¬isInside value) :
    inside ++ rest = other ++ after ↔ inside = other ∧ rest = after := by
  constructor
  · intro same
    have spans := takeWhile_exact all stop
    rw [same, takeWhile_exact otherAll otherStop] at spans
    have rests := dropWhile_exact all stop
    rw [same, dropWhile_exact otherAll otherStop] at rests
    exact ⟨spans.symm, rests.symm⟩
  · rintro ⟨rfl, rfl⟩
    rfl

end Spans

namespace Text

/-- A text without what is dropped from its ends is left as it is. -/
theorem trim_of_forall {isDropped : CodePoint → Bool} {text : Text}
    (kept : ∀ point ∈ text, ¬isDropped point) : trim isDropped text = text := by
  have whole {given : Text} (all : ∀ point ∈ given, ¬isDropped point) :
      given.dropWhile isDropped = given :=
    dropWhile_exact (show ∀ point ∈ [], isDropped point by simp) fun point first =>
      all point (List.mem_of_head? first)
  have backwards : ∀ point ∈ text.reverse, ¬isDropped point := by simpa using kept
  rw [trim, whole kept, whole backwards, List.reverse_reverse]

theorem splitOn_eq (separator : CodePoint) (text : Text) :
    splitOn separator text = List.splitOn separator text := by
  induction text with
  | nil => rfl
  | cons point rest ih =>
    rw [List.splitOn_cons_eq_if_modifyHead, splitOn, ih]
    cases split : List.splitOn separator rest with
    | nil => exact absurd split (List.splitOn_ne_nil _ _)
    | cons piece pieces =>
      dsimp only
      split <;> simp_all

theorem joinWith_eq (separator : Text) (pieces : List Text) :
    joinWith separator pieces = separator.intercalate pieces := by
  cases pieces with
  | nil => rfl
  | cons first rest =>
    induction rest generalizing first with
    | nil => simp [joinWith, List.intercalate]
    | cons second rest ih =>
      rw [List.intercalate_cons_cons, ← ih second]
      simp [joinWith]

theorem splitOn_append_cons (separator : CodePoint) (first second : Text) :
    splitOn separator (first ++ separator :: second) =
      splitOn separator first ++ splitOn separator second := by
  simp only [splitOn_eq, List.splitOn_append_cons_self]

theorem splitOn_ne_nil (separator : CodePoint) (text : Text) : splitOn separator text ≠ [] := by
  rw [splitOn_eq]
  exact List.splitOn_ne_nil separator text

theorem splitOn_of_not_mem {separator : CodePoint} {text : Text} (free : separator ∉ text) :
    splitOn separator text = [text] := by
  rw [splitOn_eq, List.splitOn_eq_singleton free]

theorem joinWith_splitOn (separator : CodePoint) (text : Text) :
    joinWith [separator] (splitOn separator text) = text := by
  rw [joinWith_eq, splitOn_eq, List.intercalate_splitOn]

theorem splitOn_joinWith {separator : CodePoint} {pieces : List Text} (given : pieces ≠ [])
    (free : ∀ piece ∈ pieces, separator ∉ piece) :
    splitOn separator (joinWith [separator] pieces) = pieces := by
  rw [joinWith_eq, splitOn_eq, List.splitOn_intercalate separator free given]

theorem joinWith_append_nil {pieces : List Text} (given : pieces ≠ []) (separator : Text) :
    joinWith separator (pieces ++ [[]]) = joinWith separator pieces ++ separator := by
  cases pieces with
  | nil => exact absurd rfl given
  | cons first rest => simp [joinWith]

theorem mem_joinWith {point : CodePoint} {separator : Text} {pieces : List Text}
    (given : point ∈ joinWith separator pieces) :
    point ∈ separator ∨ ∃ piece ∈ pieces, point ∈ piece := by
  cases pieces with
  | nil => cases given
  | cons first rest =>
    rcases List.mem_append.mp given with inFirst | later
    · exact Or.inr ⟨first, List.mem_cons_self, inFirst⟩
    · rcases List.mem_flatten.mp later with ⟨_, listed, inside⟩
      rcases List.mem_map.mp listed with ⟨piece, isLater, rfl⟩
      rcases List.mem_append.mp inside with inSeparator | inPiece
      · exact Or.inl inSeparator
      · exact Or.inr ⟨piece, List.mem_cons_of_mem _ isLater, inPiece⟩

theorem mem_joinWith_of_mem {point : CodePoint} {piece : Text} {pieces : List Text}
    (separator : Text) (listed : piece ∈ pieces) (inside : point ∈ piece) :
    point ∈ joinWith separator pieces := by
  cases pieces with
  | nil => cases listed
  | cons first rest =>
    rw [joinWith, List.mem_append]
    rcases List.mem_cons.mp listed with rfl | later
    · exact Or.inl inside
    · refine Or.inr (List.mem_flatten.mpr ⟨separator ++ piece, List.mem_map_of_mem later, ?_⟩)
      exact List.mem_append_right _ inside

/-- The pieces of a text hold nothing else. -/
theorem mem_of_mem_splitOn {separator point : CodePoint} {text piece : Text}
    (listed : piece ∈ splitOn separator text) (inside : point ∈ piece) : point ∈ text := by
  rw [← joinWith_splitOn separator text]
  exact mem_joinWith_of_mem [separator] listed inside

theorem not_mem_of_mem_splitOn {separator : CodePoint} {text piece : Text}
    (member : piece ∈ splitOn separator text) : separator ∉ piece := by
  induction text generalizing piece with
  | nil => simp_all [splitOn]
  | cons point rest ih =>
    rw [splitOn] at member
    cases split : splitOn separator rest with
    | nil => exact absurd split (splitOn_ne_nil _ _)
    | cons first pieces =>
      simp only [split, List.mem_cons, forall_eq_or_imp] at ih member
      split at member <;> grind

/-- A text is one piece exactly if it does not hold the separator. -/
theorem length_splitOn_eq_one {separator : CodePoint} {text : Text} :
    (splitOn separator text).length = 1 ↔ separator ∉ text := by
  constructor
  · intro single
    rcases List.length_eq_one_iff.mp single with ⟨piece, split⟩
    have joined := joinWith_splitOn separator text
    rw [split] at joined
    have : piece = text := by simpa [joinWith] using joined
    rw [← this]
    exact not_mem_of_mem_splitOn (show piece ∈ splitOn separator text by simp [split])
  · intro free
    rw [splitOn_of_not_mem free]
    rfl

/-! ### First pieces -/

section FirstPieces

variable {separator : CodePoint} {text : Text}

theorem firstPiece_eq_takeWhile (separator : CodePoint) (text : Text) :
    firstPiece separator text = text.takeWhile (· ≠ separator) := by
  rw [firstPiece]
  induction text with
  | nil => rfl
  | cons point rest ih =>
    by_cases same : point = separator
    · simp [cut, same]
    · simp [cut, same, ih]

theorem not_mem_firstPiece (separator : CodePoint) (text : Text) : separator ∉ firstPiece separator text := by
  rw [firstPiece_eq_takeWhile]
  intro inside
  simpa using List.all_eq_true.mp List.all_takeWhile separator inside

theorem forall_ne_of_not_mem (absent : separator ∉ text) : ∀ point ∈ text, decide (point ≠ separator) := by
  intro point inside
  exact decide_eq_true fun same => absent (same ▸ inside)

theorem firstPiece_of_not_mem (absent : separator ∉ text) : firstPiece separator text = text := by
  rw [firstPiece_eq_takeWhile]
  simpa using takeWhile_exact (forall_ne_of_not_mem absent) (show ∀ point ∈ ([] : Text).head?, _ by simp)

theorem firstPiece_append_cons (absent : separator ∉ text) (rest : Text) :
    firstPiece separator (text ++ separator :: rest) = text := by
  rw [firstPiece_eq_takeWhile]
  exact takeWhile_exact (forall_ne_of_not_mem absent) (by simp)

/-- A text with a separator goes on after its first piece with that separator. -/
theorem exists_eq_firstPiece_append (given : separator ∈ text) :
    ∃ rest, text = firstPiece separator text ++ separator :: rest := by
  rcases List.eq_append_cons_of_mem given with ⟨before, rest, same, absent⟩
  refine ⟨rest, ?_⟩
  rw [same, firstPiece_append_cons absent]

end FirstPieces

end Text

end Phrasebook
