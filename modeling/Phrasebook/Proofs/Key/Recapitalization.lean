import Phrasebook.Proofs.Key.TitleCase

/-!
# Capitalizing again

The title case of a text has the words of the text in their places, and each of them starts with a letter that
is its own uppercase form. It is its own title case, unless a word loses a capital: the uppercase form of its
first letter has a second capital in it, as that of a ligature has, and a small letter comes later in the word.
-/

namespace Phrasebook.Key

variable {first head point : CodePoint} {rest tail text name : Text}

/-! ### Words -/

/-- A word of a text: a letter and what continues the word. -/
structure Word where
  first : CodePoint
  rest : Text

/-- The words of a text. -/
def words (text : Text) : List Word :=
  match text with
  | [] => []
  | first :: rest =>
    if first.isLetter then ⟨first, rest.takeWhile continuesWord⟩ :: words (rest.dropWhile continuesWord)
    else words rest
termination_by text.length
decreasing_by
  · have := (List.dropWhile_sublist continuesWord (l := rest)).length_le
    simp only [List.length_cons]
    omega
  · simp

/-- Whether a word that is not in capitals gets several of them for its first letter, and a small letter
after them. -/
def Word.losesCapital (word : Word) : Bool :=
  !Text.isUppercase (word.first :: word.rest) && word.first.upper.tail.any CodePoint.isUppercase &&
    word.rest.lower.any CodePoint.isLowercase

theorem continuesWord_eq (point : CodePoint) : continuesWord point = Unicode.wordParts.contains point := by
  simp only [continuesWord, CodePoint.isLetter, CodePoint.isNumber, CodePoint.isMark, Unicode.wordParts,
    Unicode.Ranges.contains, List.any_append]

theorem continuesWord_of_isLetter (letter : point.isLetter) : continuesWord point := by
  rw [continuesWord, letter]
  rfl

/-! ### One word -/

/-- A word in lowercase after a capital for good is left as it is if it is in capitals or in lowercase. -/
theorem capitalize_eq_self_iff (kept : head.upper = [head]) :
    capitalize head tail = head :: tail ↔ Text.isUppercase (head :: tail) ∨ tail.lower = tail := by
  unfold capitalize
  split
  · rename_i capitals
    simp only [capitals, true_or]
  · rename_i other
    rw [kept, List.singleton_append, List.cons_inj_right]
    simp only [other, Bool.false_eq_true, false_or]

section Capital

variable (capital : CodePoint.Capital first head tail) (rest)
include capital

/-- After the capital of a word, all is in lowercase unless there is a second capital. -/
theorem lower_after_capital_iff :
    (tail ++ rest.lower).lower = tail ++ rest.lower ↔ ¬tail.any CodePoint.isUppercase := by
  have lowered : ∀ point ∈ rest.lower, point.lower = [point] := fun point made => (Text.mem_lower made).1
  have single : ∀ point ∈ tail ++ rest.lower, point ≠ 'Σ' ∧ ∃ image, point.lower = [image] := by
    intro point member
    rcases List.mem_append.mp member with inTail | inRest
    · exact ⟨(capital.trails point inTail).ne_sigma, (capital.trails point inTail).single⟩
    · exact ⟨CodePoint.ne_sigma_of_lower (lowered point inRest), _, lowered point inRest⟩
  rw [Text.lower_eq_self_iff single, List.forall_mem_append, and_iff_left lowered, List.any_eq_true, not_exists]
  refine forall_congr' fun point => ?_
  rw [not_and]
  refine forall_congr' fun inTail => ?_
  rw [(capital.trails point inTail).capital, not_not]

/-- With a second capital, a word is in capitals unless a small letter comes later. -/
theorem isUppercase_capital_iff (doubled : tail.any CodePoint.isUppercase) :
    Text.isUppercase (head :: (tail ++ rest.lower)) ↔ ¬rest.lower.any CodePoint.isLowercase := by
  have given : tail ≠ [] := by
    rintro rfl
    cases doubled
  have large : ∀ point ∈ head :: tail, (!point.isLowercase && !point.isTitlecase) = true := by
    intro point member
    have := capital.large given point member
    simp [this]
  have untitled : ∀ point ∈ rest.lower, ¬point.isTitlecase := fun point made =>
    CodePoint.not_isTitlecase_of_lower (Text.mem_lower made).1
  have hasCapital : (head :: (tail ++ rest.lower)).any CodePoint.isUppercase := by
    simp [doubled]
  rw [Text.isUppercase, hasCapital, Bool.true_and, ← List.cons_append, List.all_append,
    List.all_eq_true.mpr large, Bool.true_and, List.all_eq_true, List.any_eq_true, not_exists]
  refine forall_congr' fun point => ?_
  rw [not_and]
  refine forall_congr' fun made => ?_
  simp [untitled point made]

end Capital

/-- A word is capitalized into a word, which is left as it is the next time unless it loses a capital. -/
theorem exists_capitalize (letter : first.isLetter) (inWord : ∀ point ∈ rest, continuesWord point) :
    ∃ head tail, capitalize first rest = head :: tail ∧ head.isLetter ∧
      (∀ point ∈ tail, continuesWord point) ∧
        (capitalize head tail = head :: tail ↔ ¬Word.losesCapital ⟨first, rest⟩) := by
  -- A word in capitals stays as it is, whatever the uppercase form of its first letter.
  by_cases capitals : Text.isUppercase (first :: rest)
  · have same : capitalize first rest = first :: rest := if_pos capitals
    refine ⟨first, rest, same, letter, inWord, ?_⟩
    simp [same, Word.losesCapital, capitals]
  rcases CodePoint.exists_capital letter with ⟨head, tail, capital⟩
  have form : capitalize first rest = head :: (tail ++ rest.lower) := by
    rw [capitalize, if_neg capitals, capital.form, List.cons_append]
  refine ⟨head, tail ++ rest.lower, form, capital.isLetter, ?_, ?_⟩
  · simp only [continuesWord_eq] at inWord ⊢
    rw [List.forall_mem_append]
    exact ⟨fun point inTail => (capital.trails point inTail).inWord,
      fun point made => (Text.mem_lower made).2 inWord⟩
  · rw [capitalize_eq_self_iff capital.kept, lower_after_capital_iff rest capital]
    by_cases doubled : tail.any CodePoint.isUppercase
    · rw [isUppercase_capital_iff rest capital doubled]
      simp [Word.losesCapital, capitals, capital.form, doubled]
    · simp [Word.losesCapital, capital.form, doubled]

/-! ### Texts -/

theorem words_letter (letter : first.isLetter) :
    words (first :: rest) = ⟨first, rest.takeWhile continuesWord⟩ :: words (rest.dropWhile continuesWord) := by
  rw [words, if_pos letter]

theorem words_other (other : ¬first.isLetter) : words (first :: rest) = words rest := by
  rw [words, if_neg other]

theorem stops_dropWhile (rest : Text) : ∀ point ∈ (rest.dropWhile continuesWord).head?, ¬continuesWord point := by
  intro point isFirst
  have stopped := List.head?_dropWhile_not continuesWord rest
  rw [Option.mem_def.mp isFirst] at stopped
  simpa using stopped

theorem stops_titleCase (stops : ∀ point ∈ text.head?, ¬continuesWord point) :
    ∀ point ∈ (titleCase text).head?, ¬continuesWord point := by
  cases text with
  | nil =>
    rw [titleCase]
    exact stops
  | cons first rest =>
    have stopped := stops first rfl
    rw [titleCase_other fun letter => stopped (continuesWord_of_isLetter letter)]
    exact stops

theorem titleCase_append (letter : first.isLetter) (inWord : ∀ point ∈ rest, continuesWord point)
    (stops : ∀ point ∈ text.head?, ¬continuesWord point) :
    titleCase (first :: rest ++ text) = capitalize first rest ++ titleCase text := by
  rw [List.cons_append, titleCase_letter letter, takeWhile_exact inWord stops, dropWhile_exact inWord stops]

theorem titleCase_titleCase_iff (text : Text) :
    titleCase (titleCase text) = titleCase text ↔ ∀ word ∈ words text, ¬word.losesCapital := by
  fun_induction titleCase text with
  | case1 => simp [titleCase, words]
  | case2 first rest letter ih =>
    -- The capitalized word is a word again, and as nothing after it continues a word, it is the one that is
    -- capitalized the second time; so the word and what follows it are left as they are each for itself.
    have stops := stops_titleCase (stops_dropWhile rest)
    have inside : ∀ point ∈ rest.takeWhile continuesWord, continuesWord point :=
      fun point member => List.mem_takeWhile_imp member
    rcases exists_capitalize letter inside with ⟨head, tail, form, isLetter, inWord, again⟩
    rcases exists_capitalize isLetter inWord with ⟨other, later, formAgain, otherLetter, inOther, _⟩
    have all : ∀ point ∈ head :: tail, continuesWord point :=
      List.forall_mem_cons.mpr ⟨continuesWord_of_isLetter isLetter, inWord⟩
    have otherAll : ∀ point ∈ capitalize head tail, continuesWord point := by
      rw [formAgain]
      exact List.forall_mem_cons.mpr ⟨continuesWord_of_isLetter otherLetter, inOther⟩
    rw [form, titleCase_append isLetter inWord stops,
      append_eq_append_iff_of_exact otherAll (stops_titleCase stops) all stops, again, ih, words_letter letter,
      List.forall_mem_cons]
  | case3 first rest other ih => rw [titleCase_other other, List.cons_inj_right, ih, words_other other]

/-! ### Names -/

theorem titleCase_append_stop (text : Text) (stop : ¬continuesWord point) :
    titleCase (text ++ [point]) = titleCase text ++ [point] := by
  have notLetter : ¬point.isLetter := fun letter => stop (continuesWord_of_isLetter letter)
  fun_induction titleCase text with
  | case1 => rw [List.nil_append, titleCase_other notLetter, titleCase]
  | case2 first rest letter ih =>
    have inside : ∀ point ∈ rest.takeWhile continuesWord, continuesWord point :=
      fun point member => List.mem_takeWhile_imp member
    have stops : ∀ other ∈ (rest.dropWhile continuesWord ++ [point]).head?, ¬continuesWord other := by
      have before := stops_dropWhile rest
      cases after : rest.dropWhile continuesWord with
      | nil =>
        rintro _ ⟨⟩
        exact stop
      | cons next others =>
        rw [after] at before
        exact before
    rw [← word_append_after, List.append_assoc, titleCase_append letter inside stops, ih, List.append_assoc]
  | case3 first rest other ih => rw [List.cons_append, titleCase_other other, ih, List.cons_append]

theorem titleCase_identifier?_iff {made : Text} (isMade : identifier? name = some made) :
    titleCase made = made ↔ titleCase name = name := by
  have underscore := separators_between_words (.scalar '_') (by decide)
  rcases shape_of_identifier? isMade with rfl | rfl | ⟨_, rfl⟩
  · rfl
  · rw [titleCase_other underscore.2, List.cons_inj_right]
  · rw [titleCase_append_stop name underscore.1, List.append_left_inj]

/-- The title case of a text is its own title case exactly if no word of the text loses a capital, and the name
of the class for a key is exactly if no word of the key does. -/
theorem titleCase_idempotent_iff (text : Text) :
    (titleCase (titleCase text) = titleCase text ↔ ∀ word ∈ words text, ¬word.losesCapital) ∧
    ∀ key name, className? key = some name →
      (titleCase name = name ↔ ∀ word ∈ words (normalize key), ¬word.losesCapital) := by
  refine ⟨titleCase_titleCase_iff text, ?_⟩
  intro key name isClass
  rw [titleCase_identifier?_iff isClass, titleCase_titleCase_iff]

theorem titleCase_idempotent_iff_menu :
    className? "main-menu.HUD" = some "Main_Menu_HUD" ∧
      (∀ word ∈ words (normalize "main-menu.HUD"), ¬word.losesCapital) ∧
        titleCase "Main_Menu_HUD" = "Main_Menu_HUD" := by
  have isClass : className? "main-menu.HUD" = some "Main_Menu_HUD" := by decide +kernel
  have kept : ∀ word ∈ words (normalize "main-menu.HUD"), ¬word.losesCapital := by decide +kernel
  exact ⟨isClass, kept, ((titleCase_idempotent_iff []).2 _ _ isClass).mpr kept⟩

/-- A sharp s before a small letter gets two capitals, and loses the second one again. -/
theorem titleCase_twice_sharp_s :
    titleCase (titleCase "ßa") ≠ titleCase "ßa" ∧ className? "ßa" = some "SSa" ∧ titleCase "SSa" = "Ssa" := by
  decide +kernel

end Phrasebook.Key
