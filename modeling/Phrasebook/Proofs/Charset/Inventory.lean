import Phrasebook.Proofs.Charset.Coverage
import Phrasebook.Proofs.Language.Registry
import Phrasebook.Proofs.Text.Utf8

/-!
# What belongs to a character set

A character set has the characters of the stored texts, those that are always needed, and those of
numbers and of the names of languages if they are asked for. It lists each of them once, by their
numbers. Line breaks of the texts are left out before the names are added, so that a character set has
a line break exactly if a name has one.
-/

namespace Phrasebook.Charset

variable {charset : Charset} {tree : Tree} {point : CodePoint}

/-- A node of a tree has a text with a character in some language. -/
def InTexts (tree : Tree) (point : CodePoint) : Prop :=
  ∃ (place : Place tree.roots) (language text : Text),
    place.node.textFor language = some text ∧ point ∈ text

/-- The names of languages are needed, and one of them has a character. -/
def InNames (charset : Charset) (point : CodePoint) : Prop :=
  ∃ registry ∈ charset.registry, ∃ language ∈ registry.languages, point ∈ language.displayName

/-- A character is supplied by something that belongs to a character set. -/
def Supplied (charset : Charset) (tree : Tree) (point : CodePoint) : Prop :=
  InTexts tree point ∨ point ∈ commonCharacters ∨ (charset.numeric ∧ point ∈ numericCharacters) ∨
    charset.InNames point

/-! ### Members -/

theorem mem_textCharacters_iff : point ∈ textCharacters tree ↔ point ≠ '\n' ∧ InTexts tree point := by
  rw [mem_textCharacters, Tree.walk, Place.walk_eq_map_all]
  apply and_congr_right'
  simp only [List.mem_map, InTexts, Node.textFor, LocalTexts.get?_eq_some]
  constructor
  · rintro ⟨_, ⟨place, _, rfl⟩, ⟨language, text⟩, listed, inside⟩
    exact ⟨place, language, text, listed, inside⟩
  · rintro ⟨place, language, text, listed, inside⟩
    exact ⟨_, ⟨place, Place.mem_all place, rfl⟩, (language, text), listed, inside⟩

theorem mem_names_iff :
    point ∈ (charset.registry.map fun registry => registry.displayNames.flatten).getD [] ↔
      charset.InNames point := by
  cases named : charset.registry with
  | none => simp [InNames, named]
  | some registry => simp [InNames, named, Registry.displayNames]

theorem mem_characters_iff :
    point ∈ charset.characters tree ↔
      (point ≠ '\n' ∧ InTexts tree point) ∨ (charset.numeric ∧ point ∈ numericCharacters) ∨
        charset.InNames point ∨ point ∈ commonCharacters := by
  simp only [mem_characters, needed, List.mem_append, mem_textCharacters_iff, mem_names_iff, or_assoc]
  cases charset.numeric <;> simp

/-! ### Order -/

theorem pairwise_dropRepeats {text : Text}
    (sorted : text.Pairwise fun first second => first.value ≤ second.value) :
    (dropRepeats text).Pairwise (· < ·) := by
  fun_induction dropRepeats text with
  | case1 => exact .nil
  | case2 => exact List.pairwise_singleton _ _
  | case3 point rest others left ih =>
    rw [← left]
    exact ih sorted.tail
  | case4 point rest next others left differs ih =>
    rw [left] at ih
    have atMost : ∀ other ∈ next :: others, point.value ≤ other.value := by
      intro other member
      rw [← left, mem_dropRepeats] at member
      exact List.rel_of_pairwise_cons sorted member
    have below : point < next := by
      have apart : point.value ≠ next.value := fun same => differs (CodePoint.value_inj.mp same)
      exact Nat.lt_of_le_of_ne (atMost next List.mem_cons_self) apart
    refine .cons ?_ (ih sorted.tail)
    intro other member
    rcases List.mem_cons.mp member with rfl | later
    · exact below
    · exact Nat.lt_trans below (List.rel_of_pairwise_cons (ih sorted.tail) later)

theorem pairwise_characters : (charset.characters tree).Pairwise (· < ·) := by
  apply pairwise_dropRepeats
  have sorted := @List.pairwise_mergeSort CodePoint (fun first second => first.value ≤ second.value)
    (fun _ _ _ => by simpa using Nat.le_trans) (fun _ _ => by simpa using Nat.le_total _ _)
    (charset.needed tree)
  exact sorted.imp fun ordered => by simpa using ordered

/-! ### Line breaks -/

theorem not_mem_of_break : .scalar '\n' ∉ commonCharacters ∧ .scalar '\n' ∉ numericCharacters := by
  decide

theorem break_mem_characters_iff :
    .scalar '\n' ∈ charset.characters tree ↔ charset.InNames '\n' := by
  simp [mem_characters_iff, not_mem_of_break]

/-- A character set has exactly the characters that are supplied and no line breaks, and a line break if
one is in a name. It lists them in increasing order. Without line breaks in names it has exactly the
characters that are supplied and no line breaks, and not otherwise. -/
theorem characters_unless_break_in_names (charset : Charset) (tree : Tree) :
    (∀ point, point ∈ charset.characters tree ↔
      (point ≠ '\n' ∧ charset.Supplied tree point) ∨ (point = '\n' ∧ charset.InNames '\n')) ∧
    (charset.characters tree).Pairwise (· < ·) ∧
    ((∀ point, point ∈ charset.characters tree ↔ point ≠ '\n' ∧ charset.Supplied tree point) ↔
      ¬charset.InNames '\n') := by
  have exact' : ∀ point, point ∈ charset.characters tree ↔
      (point ≠ '\n' ∧ charset.Supplied tree point) ∨ (point = '\n' ∧ charset.InNames '\n') := by
    intro point
    by_cases isBreak : point = '\n'
    · subst isBreak
      simp [break_mem_characters_iff]
    · rw [mem_characters_iff, Supplied]
      simp only [ne_eq, isBreak, not_false_iff, true_and, false_and, or_false]
      tauto
  refine ⟨exact', pairwise_characters, ?_⟩
  constructor
  · intro claimed named
    exact ((claimed '\n').mp (break_mem_characters_iff.mpr named)).1 rfl
  · intro unbroken point
    rw [exact' point]
    simp [unbroken]

/-- A registry in which the name of a language has a line break. -/
def brokenNames : Registry where
  languages := [⟨0, "en", "Eng\nlish"⟩]
  fallback := ⟨0, "en", "Eng\nlish"⟩
  fallback_mem := by simp
  codes_distinct := by decide
  ids_distinct := by decide

/-- A registry is accepted with a line break in a name, and then a line break belongs to the character set
of every tree, one without texts included. -/
theorem break_in_name_is_listed :
    brokenNames.Accepted ∧
      .scalar '\n' ∈ (Charset.mk false (some brokenNames)).characters (.make [] [] [] []) ∧
      ¬∀ point, point ∈ (Charset.mk false (some brokenNames)).characters (.make [] [] [] []) ↔
        point ≠ '\n' ∧ (Charset.mk false (some brokenNames)).Supplied (.make [] [] [] []) point := by
  have accepted : Registry.ofLanguages brokenNames.languages "en" = .ok brokenNames := by
    decide +kernel
  have named : (Charset.mk false (some brokenNames)).InNames '\n' :=
    ⟨brokenNames, rfl, _, List.mem_singleton_self _, by decide⟩
  have listed : .scalar '\n' ∈ (Charset.mk false (some brokenNames)).characters (.make [] [] [] []) :=
    break_mem_characters_iff.mpr named
  exact ⟨⟨_, _, accepted⟩, listed, fun claimed => ((claimed '\n').mp listed).1 rfl⟩

end Phrasebook.Charset
