import Phrasebook.Key.Identifier

/-!
# Names made from keys

Every name that is made from a key is an identifier and no keyword.
-/

namespace Phrasebook.Key

/-- A name can stand for a constant or a class. -/
def IsFreeName (name : Text) : Prop := Text.isIdentifier name ∧ name ∉ keywords

theorem append_underscore_not_mem_keywords :
    ∀ keyword ∈ keywords, keyword ++ [.scalar '_'] ∉ keywords := by
  decide +kernel

theorem not_mem_keywords_of_escape (name : Text) :
    (if keywords.contains name then name ++ [.scalar '_'] else name) ∉ keywords := by
  split
  · rename_i keyword
    exact append_underscore_not_mem_keywords name (List.contains_iff_mem.mp keyword)
  · rename_i free
    simpa using free

theorem isFreeName_of_identifier? {name free : Text} (made : identifier? name = some free) :
    IsFreeName free := by
  unfold identifier? at made
  extract_lets started escaped at made
  split at made
  · cases made
  · split at made
    · rename_i identifier
      rw [← Option.some.inj made]
      exact ⟨identifier, not_mem_keywords_of_escape started⟩
    · cases made

end Phrasebook.Key
