import Mathlib.Data.List.TakeWhile
import Phrasebook.Key.Identifier
import Phrasebook.Proofs.Text.Split
import Phrasebook.Proofs.Unicode.CaseMapping

/-!
# Title case and names

Dashes, periods and underscores separate the words of a key. No case mapping makes one of them, so a key
and its title case have the same separators in the same places. A key is therefore its own title case
exactly if its normal form is, and what is added to a normal form to make an identifier of it neither
makes different names the same nor the other way round.
-/

namespace Phrasebook

namespace Unicode

/-- The numbers of the code points that separate words in keys. -/
def separatorNumbers : List Nat := [0x2D, 0x2E, 0x5F]

theorem separatorNumbers_pos : ∀ number ∈ separatorNumbers, 0 < number := by
  decide

/-- A run maps nothing to a separator. -/
def CaseRun.Unseparated (run : CaseRun) : Prop :=
  ∀ number ∈ separatorNumbers, (number : Int) < run.first + run.offset ∨ run.last + run.offset < number

instance (run : CaseRun) : Decidable run.Unseparated :=
  inferInstanceAs (Decidable (∀ number ∈ separatorNumbers, _))

/-- The entries of a table map nothing to a separator. -/
def Unseparated (runs : List CaseRun) (expansions : List (Nat × List Nat)) : Prop :=
  (∀ run ∈ runs, run.Unseparated) ∧
    ∀ expansion ∈ expansions, ∀ number ∈ expansion.2, number ∉ separatorNumbers

instance (runs : List CaseRun) (expansions : List (Nat × List Nat)) :
    Decidable (Unseparated runs expansions) :=
  inferInstanceAs (Decidable (_ ∧ _))

theorem unseparated_uppercase : Unseparated uppercaseRuns uppercaseExpansions := by
  decide +kernel

theorem unseparated_lowercase : Unseparated lowercaseRuns lowercaseExpansions := by
  decide +kernel

end Unicode

namespace CodePoint

/-- Whether a code point separates words in keys. -/
def isSeparator (point : CodePoint) : Bool := Unicode.separatorNumbers.contains point.value

variable {point image : CodePoint}

theorem isSeparator_iff : point.isSeparator ↔ point = '-' ∨ point = '.' ∨ point = '_' := by
  have numbers : ∀ number, number ∈ Unicode.separatorNumbers ↔
      number = (scalar '-').value ∨ number = (scalar '.').value ∨ number = (scalar '_').value := by
    simp [Unicode.separatorNumbers, value]
  rw [isSeparator, List.contains_iff_mem, numbers]
  simp only [value_inj]

theorem not_isSeparator_of_mem_applyCase {runs : List Unicode.CaseRun} {expansions : List (Nat × List Nat)}
    (settled : Unicode.settled runs expansions) (table : Unicode.Unseparated runs expansions)
    (inWord : ¬point.isSeparator) (made : image ∈ Unicode.applyCase runs expansions point) :
    ¬image.isSeparator := by
  cases found : expansions.lookup point.value with
  | some numbers =>
    rw [Unicode.applyCase_of_expansion found] at made
    rcases List.mem_filterMap.mp made with ⟨number, listed, isImage⟩
    rw [isSeparator, value_of_ofNat? isImage, List.contains_iff_mem]
    exact table.2 _ (Unicode.mem_of_lookup found) number listed
  | none =>
    rcases Unicode.applyCase_single settled found with ⟨other, mapped, _, isImage⟩
    rw [mapped, List.mem_singleton] at made
    subst made
    rcases isImage with rfl | ⟨run, listed, covered, isImage⟩
    · exact inWord
    · rw [isSeparator, List.contains_iff_mem, isImage]
      intro separator
      have := Unicode.bounds_of_covers covered
      have positive := Unicode.separatorNumbers_pos _ separator
      have apart := table.1 run listed _ separator
      unfold Unicode.CaseRun.image at positive apart
      omega

theorem not_isSeparator_of_mem_upper (inWord : ¬point.isSeparator) (made : image ∈ point.upper) :
    ¬image.isSeparator :=
  not_isSeparator_of_mem_applyCase Unicode.settled_uppercase Unicode.unseparated_uppercase inWord made

theorem not_isSeparator_of_mem_lower (inWord : ¬point.isSeparator) (made : image ∈ point.lower) :
    ¬image.isSeparator :=
  not_isSeparator_of_mem_applyCase Unicode.settled_lowercase Unicode.unseparated_lowercase inWord made

end CodePoint

namespace Text

theorem not_isSeparator_of_mem_lower {text : Text} (inWord : ∀ point ∈ text, ¬point.isSeparator) :
    ∀ image ∈ text.lower, ¬image.isSeparator := by
  have sigmas : ∀ sigma ∈ ofString "ς" ++ ofString "σ", ¬sigma.isSeparator := by decide
  intro image made
  rcases mem_lower_cases made with sigma | ⟨point, member, mapped⟩
  · exact sigmas image sigma
  · exact CodePoint.not_isSeparator_of_mem_lower (inWord point member) mapped

end Text

namespace Key

open CodePoint (isSeparator)

variable {first point : CodePoint} {rest key name : Text}

/-! ### Separators and words -/

theorem not_isSeparator_of_mem_capitalize (inWord : ∀ point ∈ first :: rest, ¬isSeparator point) :
    ∀ image ∈ capitalize first rest, ¬isSeparator image := by
  unfold capitalize
  split
  · exact inWord
  · rw [List.forall_mem_cons] at inWord
    intro image made
    rcases List.mem_append.mp made with inFirst | inRest
    · exact CodePoint.not_isSeparator_of_mem_upper inWord.1 inFirst
    · exact Text.not_isSeparator_of_mem_lower inWord.2 image inRest

theorem separators_between_words :
    ∀ point : CodePoint, isSeparator point → ¬continuesWord point ∧ ¬point.isLetter := by
  have separators : ∀ point ∈ Text.ofString "-._", ¬continuesWord point ∧ ¬point.isLetter := by
    decide +kernel
  intro point separator
  apply separators
  simpa [Text.ofString] using CodePoint.isSeparator_iff.mp separator

theorem not_isSeparator_of_continuesWord (continues : continuesWord point) : ¬isSeparator point :=
  fun separator => (separators_between_words point separator).1 continues

theorem not_isSeparator_of_isLetter (letter : point.isLetter) : ¬isSeparator point :=
  fun separator => (separators_between_words point separator).2 letter

theorem unseparated_word (letter : first.isLetter) (rest : Text) :
    ∀ point ∈ first :: rest.takeWhile continuesWord, ¬isSeparator point := by
  rw [List.forall_mem_cons]
  exact ⟨not_isSeparator_of_isLetter letter,
    fun _ member => not_isSeparator_of_continuesWord (List.mem_takeWhile_imp member)⟩

theorem word_append_after (first : CodePoint) (rest : Text) :
    first :: rest.takeWhile continuesWord ++ rest.dropWhile continuesWord = first :: rest := by
  rw [List.cons_append, List.takeWhile_append_dropWhile]

/-- A word ends before a text: there is nothing more, or a separator. -/
def EndsWord (text : Text) : Prop := ∀ point ∈ text.head?, isSeparator point

/-- Texts that start with a word are the same exactly if these words and what follows them are. -/
theorem append_eq_append_iff_of_unseparated {word other after rest : Text}
    (inWord : ∀ point ∈ word, ¬isSeparator point) (inOther : ∀ point ∈ other, ¬isSeparator point)
    (ends : EndsWord after) (otherEnds : EndsWord rest) :
    word ++ after = other ++ rest ↔ word = other ∧ after = rest := by
  have inside : ∀ point ∈ word, !isSeparator point := by simpa using inWord
  have otherInside : ∀ point ∈ other, !isSeparator point := by simpa using inOther
  have stop : ∀ point ∈ after.head?, ¬(!isSeparator point) := by simpa [EndsWord] using ends
  have otherStop : ∀ point ∈ rest.head?, ¬(!isSeparator point) := by simpa [EndsWord] using otherEnds
  exact append_eq_append_iff_of_exact inside stop otherInside otherStop

/-! ### Normal forms -/

/-- The normal form of a code point. -/
def normalPoint (point : CodePoint) : CodePoint :=
  if point = '-' ∨ point = '.' then .scalar '_' else point

theorem normalize_cons : normalize (point :: rest) = normalPoint point :: normalize rest := rfl

theorem normalPoint_of_not_isSeparator (inWord : ¬isSeparator point) : normalPoint point = point := by
  rw [CodePoint.isSeparator_iff] at inWord
  unfold normalPoint
  grind

theorem isSeparator_normalPoint : isSeparator (normalPoint point) = isSeparator point := by
  rw [Bool.eq_iff_iff, CodePoint.isSeparator_iff, CodePoint.isSeparator_iff]
  unfold normalPoint
  grind

/-- What is the same for all separators does not change with the normal form. -/
theorem apply_normalPoint {property : CodePoint → Bool}
    (fails : ∀ point, isSeparator point → ¬property point) (point : CodePoint) :
    property (normalPoint point) = property point := by
  by_cases separator : isSeparator point
  · have normal : isSeparator (normalPoint point) := isSeparator_normalPoint.trans separator
    rw [Bool.eq_false_iff.mpr (fails _ normal), Bool.eq_false_iff.mpr (fails _ separator)]
  · rw [normalPoint_of_not_isSeparator separator]

theorem continuesWord_normalPoint (point : CodePoint) :
    continuesWord (normalPoint point) = continuesWord point :=
  apply_normalPoint (fun point separator => (separators_between_words point separator).1) point

theorem isLetter_normalPoint (point : CodePoint) : (normalPoint point).isLetter = point.isLetter :=
  apply_normalPoint (fun point separator => (separators_between_words point separator).2) point

theorem takeWhile_normalize :
    (normalize key).takeWhile continuesWord = key.takeWhile continuesWord := by
  induction key with
  | nil => rfl
  | cons point rest ih =>
    rw [normalize_cons, List.takeWhile_cons, List.takeWhile_cons, continuesWord_normalPoint, ih]
    split
    · rename_i continues
      rw [normalPoint_of_not_isSeparator (not_isSeparator_of_continuesWord continues)]
    · rfl

theorem dropWhile_normalize :
    (normalize key).dropWhile continuesWord = normalize (key.dropWhile continuesWord) := by
  induction key with
  | nil => rfl
  | cons point rest ih =>
    rw [normalize_cons, List.dropWhile_cons, List.dropWhile_cons, continuesWord_normalPoint, ih]
    split <;> rfl

/-! ### Title case -/

theorem titleCase_letter (letter : first.isLetter) :
    titleCase (first :: rest) =
      capitalize first (rest.takeWhile continuesWord) ++ titleCase (rest.dropWhile continuesWord) := by
  rw [titleCase, if_pos letter]

theorem titleCase_other (other : ¬first.isLetter) : titleCase (first :: rest) = first :: titleCase rest := by
  rw [titleCase, if_neg other]

/-- A text is made of words and separators. -/
def Separated (text : Text) : Prop := ∀ point ∈ text, continuesWord point ∨ isSeparator point

theorem separated_of_isValid (valid : isValid key) : Separated key := by
  intro point member
  by_cases separator : isSeparator point
  · exact Or.inr separator
  · simp only [isValid, Bool.and_eq_true, List.all_eq_true] at valid
    have isKey := valid.2 (normalPoint point) (List.mem_map_of_mem member)
    have notUnderscore : point ≠ '_' := fun same => separator (CodePoint.isSeparator_iff.mpr (by simp [same]))
    rw [normalPoint_of_not_isSeparator separator] at isKey
    simp only [isKeyCharacter, notUnderscore, decide_false, Bool.false_or, Bool.or_eq_true] at isKey
    left
    simpa [continuesWord, or_assoc] using Or.inl isKey

theorem endsWord_dropWhile (separated : Separated rest) : EndsWord (rest.dropWhile continuesWord) := by
  intro point isFirst
  have member : point ∈ rest := (List.dropWhile_sublist _).subset (List.mem_of_head? isFirst)
  have stopped := List.head?_dropWhile_not continuesWord rest
  rw [Option.mem_def.mp isFirst] at stopped
  exact (separated point member).resolve_left (by simp [stopped])

theorem EndsWord.titleCase {text : Text} (ends : EndsWord text) : EndsWord (Key.titleCase text) := by
  cases text with
  | nil =>
    rw [Key.titleCase]
    exact ends
  | cons first rest =>
    have separator : isSeparator first := ends first rfl
    rw [titleCase_other (separators_between_words first separator).2]
    exact ends

theorem EndsWord.normalize {text : Text} (ends : EndsWord text) : EndsWord (Key.normalize text) := by
  cases text with
  | nil => exact ends
  | cons first rest =>
    rintro _ ⟨⟩
    exact isSeparator_normalPoint.trans (ends first rfl)

/-- A word and the title case of what follows make the text exactly if both are as they were. -/
theorem eq_titleCase_letter_iff (letter : first.isLetter) (ends : EndsWord (rest.dropWhile continuesWord)) :
    first :: rest = titleCase (first :: rest) ↔
      first :: rest.takeWhile continuesWord = capitalize first (rest.takeWhile continuesWord) ∧
        rest.dropWhile continuesWord = titleCase (rest.dropWhile continuesWord) := by
  have inWord := unseparated_word letter rest
  have parts := append_eq_append_iff_of_unseparated inWord (not_isSeparator_of_mem_capitalize inWord) ends
    ends.titleCase
  rwa [word_append_after, ← titleCase_letter letter] at parts

/-- A text of words and separators is its own title case exactly if its normal form is. -/
theorem eq_titleCase_iff_normalize (separated : Separated key) :
    key = titleCase key ↔ normalize key = titleCase (normalize key) := by
  -- By the words of the title case: normalization leaves each word and its end where they are.
  fun_induction titleCase key with
  | case1 => simp [normalize, titleCase]
  | case2 first rest letter ih =>
    have laterSeparated : Separated rest := fun point member => separated point (.tail _ member)
    have ends := endsWord_dropWhile laterSeparated
    have normalLetter : (normalPoint first).isLetter := (isLetter_normalPoint first).trans letter
    have same : normalPoint first = first :=
      normalPoint_of_not_isSeparator (not_isSeparator_of_isLetter letter)
    have normalEnds : EndsWord ((normalize rest).dropWhile continuesWord) := by
      rw [dropWhile_normalize]
      exact ends.normalize
    rw [← titleCase_letter letter, eq_titleCase_letter_iff letter ends, normalize_cons,
      eq_titleCase_letter_iff normalLetter normalEnds, takeWhile_normalize, dropWhile_normalize, same,
      ih fun point member => laterSeparated point ((List.dropWhile_sublist _).subset member)]
  | case3 first rest other ih =>
    have normalOther : ¬(normalPoint first).isLetter := by rwa [isLetter_normalPoint]
    rw [normalize_cons, titleCase_other normalOther, List.cons_inj_right, List.cons_inj_right,
      ih fun point member => separated point (.tail _ member)]

/-! ### Identifiers -/

theorem count_underscore_of_unseparated {word : Text} (unseparated : ∀ point ∈ word, ¬isSeparator point) :
    word.count (.scalar '_') = 0 :=
  List.count_eq_zero.mpr fun member => unseparated _ member (by decide)

/-- A text has as many underscores as its title case. -/
theorem count_underscore_titleCase (name : Text) :
    (titleCase name).count (.scalar '_') = name.count (.scalar '_') := by
  fun_induction titleCase name with
  | case1 => rfl
  | case2 first rest letter ih =>
    have inWord := unseparated_word letter rest
    rw [← word_append_after, List.count_append, List.count_append, ih, count_underscore_of_unseparated inWord,
      count_underscore_of_unseparated (not_isSeparator_of_mem_capitalize inWord)]
  | case3 first rest other ih => rw [List.count_cons, List.count_cons, ih]

theorem keywords_start : ∀ keyword ∈ keywords, keyword.head? ≠ some (.scalar '_') := by
  decide +kernel

/-- An identifier is the name itself, or it has an underscore in front, or one behind a keyword. -/
theorem shape_of_identifier? {made : Text} (isMade : identifier? name = some made) :
    made = name ∨ made = .scalar '_' :: name ∨ (name ∈ keywords ∧ made = name ++ [.scalar '_']) := by
  unfold identifier? at isMade
  extract_lets started free at isMade
  have isFree : free = made := by
    split at isMade
    · cases isMade
    · split at isMade
      · exact Option.some.inj isMade
      · cases isMade
  subst isFree
  have startedShape : started = name ∨ started = .scalar '_' :: name := by
    unfold started
    split
    · exact Or.inr rfl
    · exact Or.inl rfl
  by_cases keyword : started ∈ keywords
  · have isName : started = name := by
      rcases startedShape with same | inFront
      · exact same
      · exact absurd (by rw [inFront]; rfl) (keywords_start started keyword)
    have behind : free = started ++ [.scalar '_'] := if_pos (List.contains_iff_mem.mpr keyword)
    rw [isName] at keyword behind
    exact Or.inr (Or.inr ⟨keyword, behind⟩)
  · have same : free = started := if_neg (mt List.contains_iff_mem.mp keyword)
    rw [same]
    rcases startedShape with same | inFront
    · exact Or.inl same
    · exact Or.inr (Or.inl inFront)

theorem underscore_append_ne_of_keyword {keyword : Text} (isKeyword : keyword ∈ keywords) :
    .scalar '_' :: name ≠ keyword ++ [.scalar '_'] := by
  intro same
  cases keyword with
  | nil => exact absurd isKeyword (by decide)
  | cons first rest =>
    rw [List.cons_append, List.cons.injEq] at same
    exact keywords_start _ isKeyword (by rw [← same.1]; rfl)

/-- Names with as many underscores give the same identifier only if they are the same. -/
theorem eq_of_identifier?_eq {other made otherMade : Text}
    (counts : name.count (.scalar '_') = other.count (.scalar '_'))
    (isMade : identifier? name = some made) (isOther : identifier? other = some otherMade)
    (same : made = otherMade) : name = other := by
  have underscores := congrArg (List.count (.scalar '_')) same
  -- The counts leave those shapes where an underscore is added to both or to neither.
  rcases shape_of_identifier? isMade with rfl | rfl | ⟨keyword, rfl⟩
  · rcases shape_of_identifier? isOther with rfl | rfl | ⟨_, rfl⟩
    · exact same
    · simp [counts] at underscores
    · simp [counts] at underscores
  · rcases shape_of_identifier? isOther with rfl | rfl | ⟨otherKeyword, rfl⟩
    · simp [counts] at underscores
    · exact (List.cons.inj same).2
    · exact absurd same (underscore_append_ne_of_keyword otherKeyword)
  · rcases shape_of_identifier? isOther with rfl | rfl | ⟨_, rfl⟩
    · simp [counts] at underscores
    · exact absurd same.symm (underscore_append_ne_of_keyword keyword)
    · exact List.append_cancel_right same

theorem isTitleCase_iff : isTitleCase key ↔ key = titleCase key := by
  simp [isTitleCase]

theorem isTitleCase_normalize (valid : isValid key) : isTitleCase (normalize key) = isTitleCase key := by
  rw [Bool.eq_iff_iff, isTitleCase_iff, isTitleCase_iff,
    eq_titleCase_iff_normalize (separated_of_isValid valid)]

/-- The constant and the class for a key have one name exactly if the key is its own title case. -/
theorem names_eq_iff_isTitleCase {constant className : Text} (valid : isValid key)
    (isConstant : constantName? key = some constant) (isClass : className? key = some className) :
    constant = className ↔ isTitleCase key := by
  rw [← isTitleCase_normalize valid, isTitleCase_iff]
  constructor
  · exact eq_of_identifier?_eq (count_underscore_titleCase (normalize key)).symm isConstant isClass
  · intro same
    rw [className?, ← same] at isClass
    exact Option.some.inj (isConstant.symm.trans isClass)

end Key

end Phrasebook
