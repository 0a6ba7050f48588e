import Phrasebook.Text.Basic

/-!
# Replacing

What a text holds after one code point in it has been replaced. Replacing a code point by another and
then that one by the first is the same as the second replacement alone.
-/

namespace Phrasebook.Text

variable {text replacement : Text} {target other point : CodePoint}

theorem mem_replace :
    point ∈ text.replace target replacement ↔
      (target ∈ text ∧ point ∈ replacement) ∨ (point ∈ text ∧ point ≠ target) := by
  simp only [replace, List.mem_flatMap]
  constructor
  · rintro ⟨stored, inside, written⟩
    by_cases same : stored = target
    · subst same
      exact Or.inl ⟨inside, by simpa using written⟩
    · rw [if_neg same, List.mem_singleton] at written
      subst written
      exact Or.inr ⟨inside, same⟩
  · rintro (⟨inside, written⟩ | ⟨inside, apart⟩)
    · exact ⟨target, inside, by simpa using written⟩
    · exact ⟨point, inside, by simp [apart]⟩

theorem not_mem_replace (fresh : target ∉ replacement) : target ∉ text.replace target replacement := by
  simp [mem_replace, fresh]

theorem replace_eq_nil (given : replacement ≠ []) : text.replace target replacement = [] ↔ text = [] := by
  cases text with
  | nil => simp [replace]
  | cons first rest =>
    simp only [replace, List.flatMap_cons, List.append_eq_nil_iff, reduceCtorEq, iff_false, not_and]
    intro empty
    split at empty
    · exact absurd empty given
    · cases empty

theorem replace_of_not_mem (absent : target ∉ text) : text.replace target replacement = text := by
  induction text with
  | nil => rfl
  | cons first rest ih =>
    rw [List.mem_cons, not_or] at absent
    have later : List.flatMap _ rest = rest := ih absent.2
    rw [replace, List.flatMap_cons, if_neg (Ne.symm absent.1), later, List.singleton_append]

theorem replace_back : (text.replace target [other]).replace other [target] = text.replace other [target] := by
  simp only [replace, List.flatMap_assoc]
  congr 1
  funext stored
  by_cases same : stored = target
  · by_cases alike : target = other <;> simp [same, alike]
  · simp [same]

end Phrasebook.Text
