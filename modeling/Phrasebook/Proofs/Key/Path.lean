import Phrasebook.Key.Path
import Phrasebook.Proofs.Text.Split

/-!
# Key paths and their segments

The segments of the path of a child are those of its parent and those of its key. A key with a period
thus makes more than one segment.
-/

namespace Phrasebook.KeyPath

/-- The segments of the path of a parent, none if there is no parent. -/
def stem : Option Text → List Text
  | none | some [] => []
  | some path => segments path

theorem stem_of_ne_nil {path : Text} (given : path ≠ []) : stem (some path) = segments path := by
  cases path with
  | nil => exact absurd rfl given
  | cons point rest => rfl

theorem segments_join (parent : Option Text) (key : Text) :
    segments (join parent key) = stem parent ++ segments key := by
  rcases parent with _ | _ | ⟨point, rest⟩
  · rfl
  · rfl
  · exact Text.splitOn_append_cons _ (point :: rest) key

theorem join_ne_nil {parent : Option Text} {key : Text} (given : key ≠ []) :
    join parent key ≠ [] := by
  rcases parent with _ | _ | ⟨point, rest⟩
  · exact given
  · exact given
  · simp [join]

theorem segments_of_not_mem {key : Text} (undotted : .scalar '.' ∉ key) : segments key = [key] :=
  Text.splitOn_of_not_mem undotted

/-- Keys are the segments of themselves exactly if no key has a period. -/
theorem flatMap_segments_eq_self {keys : List Text} :
    keys.flatMap segments = keys ↔ ∀ key ∈ keys, .scalar '.' ∉ key := by
  have grows : ∀ keys : List Text, keys.length ≤ (keys.flatMap segments).length := by
    intro keys
    induction keys with
    | nil => simp
    | cons key rest ih =>
      have := List.length_pos_iff.mpr (Text.splitOn_ne_nil '.' key)
      simp only [List.flatMap_cons, List.length_append, List.length_cons, segments] at ih ⊢
      omega
  induction keys with
  | nil => simp
  | cons key rest ih =>
    simp only [List.mem_cons, forall_eq_or_imp]
    constructor
    · intro same
      have lengths := congrArg List.length same
      have := grows rest
      have := List.length_pos_iff.mpr (Text.splitOn_ne_nil '.' key)
      simp only [List.flatMap_cons, List.length_append, List.length_cons, segments] at lengths this
      have undotted : .scalar '.' ∉ key := Text.length_splitOn_eq_one.mp (by omega)
      rw [List.flatMap_cons, segments_of_not_mem undotted] at same
      exact ⟨undotted, ih.mp (List.append_cancel_left same)⟩
    · rintro ⟨undotted, later⟩
      rw [List.flatMap_cons, segments_of_not_mem undotted, ih.mpr later]
      rfl

end Phrasebook.KeyPath
