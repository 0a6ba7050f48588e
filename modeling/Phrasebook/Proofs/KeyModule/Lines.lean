import Phrasebook.KeyModule.Emission
import Phrasebook.Proofs.Key.Identifier
import Phrasebook.Proofs.KeyModule.Reading
import Phrasebook.Proofs.Text.Split

/-!
# Lines of key modules

Each line that is written for a member reads as what it was written for. Names have no blanks and are no
keywords, key paths have no quotes, and neither they nor the texts in comments have line breaks.
-/

namespace Phrasebook.KeyModule

/-! ### Characters -/

/-- A text stays in one line. -/
def InOneLine (text : Text) : Prop := ∀ point ∈ text, point ≠ '\n' ∧ point ≠ '\r'

instance (text : Text) : Decidable (InOneLine text) :=
  inferInstanceAs (Decidable (∀ point ∈ text, _))

/-- A text has neither a line break nor the one character that no module may hold. -/
def Unbroken (text : Text) : Prop := ∀ point ∈ text, point ∉ Text.ofString "\n\r\x00"

instance (text : Text) : Decidable (Unbroken text) :=
  inferInstanceAs (Decidable (∀ point ∈ text, _))

theorem Unbroken.inOneLine {text : Text} (unbroken : Unbroken text) : InOneLine text := by
  intro point member
  constructor
  · rintro rfl
    exact unbroken _ member (by decide)
  · rintro rfl
    exact unbroken _ member (by decide)

theorem InOneLine.append {first second : Text} (here : InOneLine first) (there : InOneLine second) :
    InOneLine (first ++ second) := by
  intro point member
  rcases List.mem_append.mp member with inFirst | inSecond
  · exact here point inFirst
  · exact there point inSecond

theorem not_identifier_character :
    ∀ point ∈ Text.ofString " \"#\n\r",
      ¬CodePoint.startsIdentifier point ∧ ¬CodePoint.continuesIdentifier point := by
  decide +kernel

theorem not_mem_of_isIdentifier {name : Text} (identifier : Text.isIdentifier name)
    {point : CodePoint} (other : point ∈ Text.ofString " \"#\n\r") : point ∉ name := by
  rcases not_identifier_character point other with ⟨noStart, noPart⟩
  cases name with
  | nil => simp
  | cons first rest =>
    simp only [Text.isIdentifier, Bool.and_eq_true, List.all_eq_true] at identifier
    rw [List.mem_cons, not_or]
    constructor
    · rintro rfl
      exact noStart identifier.1
    · intro member
      exact noPart (identifier.2 point member)

theorem inOneLine_of_isIdentifier {name : Text} (identifier : Text.isIdentifier name) :
    InOneLine name := by
  intro point member
  constructor
  · rintro rfl
    exact not_mem_of_isIdentifier identifier (by decide) member
  · rintro rfl
    exact not_mem_of_isIdentifier identifier (by decide) member

/-- A text may stand between quotes and stands for itself there. -/
def IsPlain (text : Text) : Prop := ∀ point ∈ text, isPlain point

theorem IsPlain.inOneLine {text : Text} (plain : IsPlain text) : InOneLine text := by
  intro point member
  have := plain point member
  simp only [isPlain, Bool.and_eq_true, decide_eq_true_eq] at this
  exact ⟨this.1.2, this.2⟩

theorem isPlain_of_isKeyCharacter {point : CodePoint} (character : Key.isKeyCharacter point) :
    isPlain point := by
  have others : ∀ point ∈ Text.ofString "\"\\\n\r", ¬Key.isKeyCharacter point := by
    decide +kernel
  have apart : ∀ other ∈ Text.ofString "\"\\\n\r", point ≠ other := by
    rintro other member rfl
    exact others _ member character
  simp only [isPlain, Bool.and_eq_true, decide_eq_true_eq]
  exact ⟨⟨⟨apart _ (by decide), apart _ (by decide)⟩, apart _ (by decide)⟩, apart _ (by decide)⟩

theorem isPlain_of_isValid {key : Text} (valid : Key.isValid key) : IsPlain key := by
  intro point member
  simp only [Key.isValid, Bool.and_eq_true, List.all_eq_true] at valid
  have character := valid.2 _ (List.mem_map_of_mem member)
  split at character
  · rename_i separator
    rcases separator with rfl | rfl <;> decide
  · exact isPlain_of_isKeyCharacter character

theorem IsPlain.join {parent : Option Text} {key : Text} (above : ∀ path ∈ parent, IsPlain path)
    (plain : IsPlain key) : IsPlain (KeyPath.join parent key) := by
  rcases parent with _ | _ | ⟨first, rest⟩
  · exact plain
  · exact plain
  · intro point member
    simp only [KeyPath.join, List.mem_append, List.mem_cons] at member
    rcases member with inParent | rfl | inKey
    · exact above _ rfl point (List.mem_cons.mpr inParent)
    · decide
    · exact plain point inKey

/-- The characters of a comment are those of its text, the line breaks flattened, and those of ellipses and
entities. -/
theorem forall_mem_commentText {property : CodePoint → Prop} {text : Text}
    (flattened : ∀ point ∈ text, property (flatten point))
    (added : ∀ point ∈ Text.ofString ".&lgt;", property point) :
    ∀ point ∈ commentText text, property point := by
  have short : ∀ point ∈ shorten (text.map flatten), property point := by
    have flat : ∀ point ∈ text.map flatten, property point := by
      rw [List.forall_mem_map]
      exact flattened
    unfold shorten
    split
    · rw [List.forall_mem_append]
      refine ⟨fun point member => flat point (List.mem_of_mem_take member), ?_⟩
      exact fun point dot => added point (by revert dot point; decide)
    · exact flat
  have escaped : ∀ point, property point → ∀ other ∈ escapeBracket point, property other := by
    intro point holds other member
    unfold escapeBracket at member
    split at member
    · exact added other (by revert member other; decide)
    · split at member
      · exact added other (by revert member other; decide)
      · rwa [List.mem_singleton.mp member]
  intro point member
  rcases List.mem_flatMap.mp member with ⟨original, inShort, inEscape⟩
  exact escaped original (short original inShort) point inEscape

/-- The text of a comment ends no line, and every module may hold it. -/
theorem unbroken_commentText (text : Text) : Unbroken (commentText text) := by
  refine forall_mem_commentText (fun point _ => ?_) (by decide)
  unfold flatten
  split
  · decide
  · simp_all [Text.ofString]

theorem inOneLine_commentText (text : Text) : InOneLine (commentText text) :=
  (unbroken_commentText text).inOneLine

theorem dropStart?_append (start text : Text) : Text.dropStart? start (start ++ text) = some text := by
  induction start with
  | nil => rfl
  | cons point start ih => simpa [Text.dropStart?] using ih

theorem dropLast?_append (text : Text) (last : CodePoint) :
    dropLast? last (text ++ [last]) = some text := by
  simp [dropLast?]

section Lines

variable {width depth : Nat} {content name value : Text}

/-- A line with blanks in front of it reads as what follows them, at their depth. -/
theorem readLine_indented {said : LineContent} (positive : 0 < width)
    (unindented : ∀ first ∈ content.head?, first ≠ ' ')
    (read : readContent content = some (some said)) :
    readLine width (indentation width depth ++ content) = some (some (depth, said)) := by
  have blanks : ∀ point ∈ indentation width depth, decide (point = .scalar ' ') := by
    intro point member
    simpa using List.eq_of_mem_replicate member
  have stop : ∀ point ∈ content.head?, ¬decide (point = .scalar ' ') := by
    simpa using unindented
  rw [readLine, takeWhile_exact blanks stop, dropWhile_exact blanks stop, read]
  simp [indentation, Nat.mul_mod_right, Nat.mul_div_cancel_left depth positive]

theorem readContent_words {text : Text} (nonempty : text ≠ [])
    (opens : ∀ first ∈ text.head?, first ≠ '#' ∧ first ≠ '"') :
    readContent text = (readWords text).map some := by
  unfold readContent
  split <;> simp_all

theorem readLine_comment (positive : 0 < width) (code text : Text) :
    readLine width (indentation width depth ++ commentLine code text) =
      some (some (depth, .comment (code ++ ": " ++ commentText text))) := by
  have opened : commentLine code text =
      .scalar '#' :: .scalar ':' :: .scalar ' ' :: (code ++ (": " : Text) ++ commentText text) := rfl
  rw [opened]
  exact readLine_indented positive (by simp) rfl

theorem readLine_empty (positive : 0 < width) :
    readLine width (indentation width depth ++ "pass") = some (some (depth, .empty)) :=
  readLine_indented positive (by decide) (by decide)

/-- What follows a first word that is no comment and no quotation. -/
theorem readWords_of_word {word : Text} (rest : Text) (noBlank : .scalar ' ' ∉ word) :
    readWords (word ++ .scalar ' ' :: rest) =
      if word = Text.ofString "class" then readOpening (.scalar ' ' :: rest)
      else readConstant word (.scalar ' ' :: rest) := by
  have inside : ∀ point ∈ word, decide (point ≠ .scalar ' ') := by
    intro point member
    simp only [ne_eq, decide_eq_true_eq]
    rintro rfl
    exact noBlank member
  have stop : ∀ point ∈ (CodePoint.scalar ' ' :: rest).head?, ¬decide (point ≠ .scalar ' ') := by
    simp
  have nonempty : word ++ .scalar ' ' :: rest ≠ Text.ofString "pass" := by
    intro same
    have blank : CodePoint.scalar ' ' ∈ Text.ofString "pass" := by
      rw [← same]
      simp
    revert blank
    decide
  rw [readWords, takeWhile_exact inside stop, dropWhile_exact inside stop, if_neg nonempty]

theorem readLine_opening (positive : 0 < width) (identifier : Text.isIdentifier name) :
    readLine width (indentation width depth ++ classLine name) =
      some (some (depth, .opening name)) := by
  have opened : classLine name =
      Text.ofString "class" ++ .scalar ' ' :: (name ++ [.scalar ':']) := rfl
  have read : readOpening (.scalar ' ' :: (name ++ [.scalar ':'])) = some (.opening name) := by
    simp [readOpening, Text.ofString, Text.dropStart?, dropLast?_append, identifier]
  have head : (classLine name).head? = some (.scalar 'c') := rfl
  apply readLine_indented positive
  · simp [head]
  · rw [readContent_words (by simp [opened]) (by simp [head]), opened,
      readWords_of_word _ (by decide), if_pos rfl, read]
    rfl

theorem readConstant_literal (identifier : Text.isIdentifier name) (plain : IsPlain value) :
    readConstant name (Text.ofString " = \"" ++ (value ++ [.scalar '"'])) =
      some (.constant name value) := by
  simpa [readConstant, dropStart?_append, dropLast?_append, identifier, IsPlain] using plain

theorem readLine_constant (positive : 0 < width) (free : Key.IsFreeName name)
    (plain : IsPlain value) :
    readLine width (indentation width depth ++ constantLine name value) =
      some (some (depth, .constant name value)) := by
  have opened : constantLine name value =
      name ++ (Text.ofString " = \"" ++ (value ++ [.scalar '"'])) := by
    simp [constantLine]
    rfl
  have noClass : name ≠ Text.ofString "class" := by
    rintro rfl
    exact free.2 (by decide)
  have words : readWords (constantLine name value) = some (.constant name value) := by
    have noBlank := not_mem_of_isIdentifier free.1 (show .scalar ' ' ∈ _ by decide)
    have word := readWords_of_word (Text.ofString "= \"" ++ (value ++ [.scalar '"'])) noBlank
    rw [if_neg noClass] at word
    rw [opened]
    exact word.trans (readConstant_literal free.1 plain)
  have head : ∀ first ∈ (constantLine name value).head?, first ∈ name := by
    rw [opened]
    cases name with
    | nil => exact absurd free.1 (by decide)
    | cons first rest => simp
  have apart : ∀ first ∈ (constantLine name value).head?,
      ∀ other ∈ Text.ofString " \"#\n\r", first ≠ other := by
    rintro first found other listed rfl
    exact not_mem_of_isIdentifier free.1 listed (head first found)
  apply readLine_indented positive
  · intro first found
    exact apart first found _ (by decide)
  · rw [readContent_words _ fun first found =>
      ⟨apart first found _ (by decide), apart first found _ (by decide)⟩, words]
    · rfl
    · simp [opened]

theorem readLines_blank (lines : List Text) : readLines width ([] :: lines) = readLines width lines := by
  cases read : readLines width lines <;> simp [readLines, readLine, readContent, read]

theorem readLines_cons {line : Text} {rest : List Text} {said : Line} {others : List Line}
    (here : readLine width line = some (some said)) (later : readLines width rest = some others) :
    readLines width (line :: rest) = some (said :: others) := by
  simp [readLines, here, later]

theorem readLines_append {first second : List Text} {here later : List Line}
    (readFirst : readLines width first = some here)
    (readSecond : readLines width second = some later) :
    readLines width (first ++ second) = some (here ++ later) := by
  induction first generalizing here with
  | nil =>
    cases readFirst
    exact readSecond
  | cons line rest ih =>
    simp only [readLines, bind, Option.bind_eq_some_iff, Option.some.injEq] at readFirst
    rcases readFirst with ⟨said, here, others, below, rfl⟩
    simp [readLines, here, ih below]

end Lines

end Phrasebook.KeyModule
