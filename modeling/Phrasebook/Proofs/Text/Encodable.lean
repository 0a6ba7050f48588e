import Phrasebook.Key.Basic
import Phrasebook.Key.Path
import Phrasebook.Number.Numeral
import Phrasebook.Proofs.Text.Split
import Phrasebook.Proofs.Text.Utf8
import Phrasebook.Unicode.Identifier

/-!
# Texts without surrogates

No surrogate is a letter, a number or a part of an identifier, so keys and identifiers can be encoded as
UTF-8. Texts that are joined can be encoded if their parts can.
-/

namespace Phrasebook

namespace Unicode

/-- None of the ranges has surrogates in it. -/
def Ranges.AreScalar (ranges : Ranges) : Prop := ∀ range ∈ ranges, range.2 < 0xD800 ∨ 0xE000 ≤ range.1

instance (ranges : Ranges) : Decidable ranges.AreScalar :=
  inferInstanceAs (Decidable (∀ range ∈ ranges, _))

theorem Ranges.AreScalar.isSurrogate {ranges : Ranges} (scalar : ranges.AreScalar) {point : CodePoint}
    (inside : ranges.contains point) : point.isSurrogate = false := by
  cases point with
  | scalar char => rfl
  | surrogate offset =>
    simp only [Ranges.contains, List.any_eq_true, Bool.and_eq_true, decide_eq_true_eq] at inside
    rcases inside with ⟨range, listed, above, below⟩
    have := offset.isLt
    simp only [CodePoint.value] at above below
    rcases scalar range listed with before | after <;> omega

end Unicode

namespace Text

theorem isEncodable_iff {text : Text} :
    text.isEncodable ↔ ∀ point ∈ text, point.isSurrogate = false := by
  simp [isEncodable]

theorem isEncodable_joinWith {separator : Text} {pieces : List Text} (between : separator.isEncodable)
    (each : ∀ piece ∈ pieces, piece.isEncodable) : (joinWith separator pieces).isEncodable := by
  rw [isEncodable_iff] at between ⊢
  intro point inside
  rcases mem_joinWith inside with inSeparator | ⟨piece, listed, inPiece⟩
  · exact between point inSeparator
  · exact isEncodable_iff.mp (each piece listed) point inPiece

theorem isEncodable_ofString (string : String) : (ofString string).isEncodable := by
  rw [isEncodable_iff]
  intro point inside
  rcases List.mem_map.mp inside with ⟨char, _, rfl⟩
  rfl

theorem isEncodable_of_isIdentifier {name : Text} (identifier : isIdentifier name) :
    name.isEncodable := by
  have starts : Unicode.identifierStarts.AreScalar := by decide +kernel
  have parts : Unicode.identifierParts.AreScalar := by decide +kernel
  cases name with
  | nil => cases identifier
  | cons first rest =>
    simp only [isIdentifier, CodePoint.startsIdentifier, Bool.and_eq_true, Bool.or_eq_true,
      decide_eq_true_eq, List.all_eq_true] at identifier
    rw [isEncodable_cons, isEncodable_iff]
    constructor
    · rcases identifier.1 with rfl | start
      · rfl
      · exact starts.isSurrogate start
    · exact fun point inRest => parts.isSurrogate (identifier.2 point inRest)

end Text

/-- Keys have no surrogates. -/
theorem Key.isEncodable_of_isValid {key : Text} (valid : Key.isValid key) : key.isEncodable := by
  have letters : Unicode.letters.AreScalar := by decide +kernel
  have numbers : Unicode.numbers.AreScalar := by decide +kernel
  rw [Text.isEncodable_iff]
  intro point inKey
  simp only [Key.isValid, Bool.and_eq_true, List.all_eq_true] at valid
  have character := valid.2 _ (List.mem_map_of_mem inKey)
  split at character
  · rename_i separator
    rcases separator with rfl | rfl <;> rfl
  · simp only [Key.isKeyCharacter, Bool.or_eq_true, decide_eq_true_eq] at character
    rcases character with (rfl | letter) | number
    · rfl
    · exact letters.isSurrogate letter
    · exact numbers.isSurrogate number

theorem KeyPath.isEncodable_join {parent : Option Text} {key : Text}
    (above : ∀ path ∈ parent, path.isEncodable) (encodable : key.isEncodable) :
    (KeyPath.join parent key).isEncodable := by
  rcases parent with _ | _ | ⟨first, rest⟩
  · exact encodable
  · exact encodable
  · have parent := above _ rfl
    simpa [KeyPath.join, CodePoint.isSurrogate, encodable] using parent

end Phrasebook
