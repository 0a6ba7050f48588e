import Phrasebook.Charset
import Phrasebook.Proofs.Lookup.Addressing
import Phrasebook.Proofs.Lookup.Modes
import Phrasebook.Proofs.Template.Literal
import Phrasebook.Proofs.Texts

/-!
# Character sets cover look-ups

The character set of a tree is made of the stored texts of all its nodes. What a look-up shows comes from
one of these texts: its escaped line breaks are made, and its tokens are replaced. So a font with the
characters of the set can show every answer, but for line breaks and what is put in for tokens.
-/

namespace Phrasebook

open Outcome

namespace Charset

variable {charset : Charset} {tree : Tree} {point : CodePoint}

theorem mem_dropRepeats {text : Text} : point ∈ dropRepeats text ↔ point ∈ text := by
  fun_induction dropRepeats text with
  | case1 => rfl
  | case2 => simp_all
  | case3 => grind
  | case4 => simp_all

/-- The characters of a set are those that are needed. -/
theorem mem_characters : point ∈ charset.characters tree ↔ point ∈ charset.needed tree := by
  rw [characters, mem_dropRepeats, List.mem_mergeSort]

theorem mem_textCharacters :
    point ∈ textCharacters tree ↔
      point ≠ '\n' ∧ ∃ visited ∈ tree.walk, ∃ entry ∈ visited.2.texts.entries, point ∈ entry.2 := by
  simp only [textCharacters, List.mem_filter, List.mem_flatMap, bne_iff_ne, ne_eq, and_comm]

/-- A character of a stored text that is no line break belongs to every character set of the tree. -/
theorem mem_characters_of_stored {visited : Text × Node} {entry : Text × Text} (met : visited ∈ tree.walk)
    (stored : entry ∈ visited.2.texts.entries) (inside : point ∈ entry.2) (unbroken : point ≠ '\n') :
    point ∈ charset.characters tree := by
  rw [mem_characters]
  have inTexts : point ∈ textCharacters tree :=
    mem_textCharacters.mpr ⟨unbroken, visited, met, entry, stored, inside⟩
  simp [needed, inTexts]

end Charset

namespace Resolver

variable {resolver : Resolver} {language keyPath stored : Text} {point : CodePoint}

/-- The text of a node in a language is one of the texts of the node. -/
theorem mem_entries_of_nodeText {node : Node}
    (answered : (resolver.nodeText language keyPath node).result = .ok stored) :
    ∃ entry ∈ node.texts.entries, entry.2 = stored := by
  unfold nodeText at answered
  split at answered
  · rename_i text given
    cases answered
    exact ⟨_, LocalTexts.get?_eq_some.mp given, rfl⟩
  · split at answered
    · rename_i text given
      cases answered
      exact ⟨_, LocalTexts.get?_eq_some.mp given, rfl⟩
    · cases answered

/-- A text that is found is stored at a node of the tree. -/
theorem mem_walk_of_storedText
    (found : (resolver.storedText language keyPath).result = .ok stored) :
    ∃ visited ∈ resolver.tree.walk, ∃ entry ∈ visited.2.texts.entries, entry.2 = stored := by
  rw [storedText, reported_bind_eq_ok] at found
  rcases found with ⟨_, _, found⟩
  rw [reported_bind_eq_ok] at found
  rcases found with ⟨node, located, answered⟩
  rcases findNode_eq_ok.mp located with ⟨place, _, rfl⟩
  exact ⟨_, place.mem_walk, mem_entries_of_nodeText answered⟩

/-- The characters of a found text belong to every character set, up to line breaks. -/
theorem mem_characters_of_storedText (charset : Charset)
    (found : (resolver.storedText language keyPath).result = .ok stored)
    (inside : point ∈ Template.unescapeNewlines stored) :
    point = '\n' ∨ point ∈ charset.characters resolver.tree := by
  rcases Template.mem_of_mem_unescapeNewlines inside with isBreak | inStored
  · exact Or.inl isBreak
  · by_cases isBreak : point = '\n'
    · exact Or.inl isBreak
    · rcases mem_walk_of_storedText found with ⟨visited, met, entry, listed, rfl⟩
      exact Or.inr (Charset.mem_characters_of_stored met listed inStored isBreak)

theorem resolveStrictly_eq_ok {values : Option Fields} {text : Text} :
    (resolver.resolveStrictly language keyPath values).result = .ok text ↔
      ∃ stored, (resolver.storedText language keyPath).result = .ok stored ∧
        completed keyPath (Template.unescapeNewlines stored) values = .ok text := by
  cases stored : (resolver.storedText language keyPath).result with
  | error problem => simp [resolveStrictly_of_error stored]
  | ok found => simp [resolveStrictly_of_ok stored]

/-- Every character that a strict look-up shows belongs to the character set of the tree, whatever else
belongs to it, unless it is a line break or comes from a value that is put in for a token. -/
theorem shown_characters_covered (charset : Charset) (tree : Tree) (registry : Option Registry)
    (fallback : Option Text) (language keyPath text : Text) :
    let resolver := make tree registry true fallback
    ((resolver.resolve language keyPath none).result = .ok text →
      ∀ point ∈ text, point ≠ '\n' → point ∈ charset.characters tree) ∧
    ∀ values, Template.AreTexts values →
      (∀ stored, (resolver.storedText language keyPath).result = .ok stored →
        Template.HasBareTokens (Template.unescapeNewlines stored)) →
      (resolver.resolve language keyPath (some values)).result = .ok text →
      ∀ point ∈ text,
        point ∈ charset.characters tree ∨ point = '\n' ∨ Template.InValues values point := by
  intro resolver
  have strictly (values : Option Fields) :
      resolver.resolve language keyPath values = resolver.resolveStrictly language keyPath values :=
    resolve_of_strict rfl
  constructor
  · intro answered point shown unbroken
    rw [strictly, resolveStrictly_eq_ok] at answered
    rcases answered with ⟨stored, found, same⟩
    cases same
    exact (mem_characters_of_storedText charset found shown).resolve_left unbroken
  · intro values texts bare answered point shown
    rw [strictly, resolveStrictly_eq_ok] at answered
    rcases answered with ⟨stored, found, replaced⟩
    rw [completed, substitute, mapError_eq_ok] at replaced
    rcases Template.mem_of_mem_substitute texts (bare stored found) replaced shown with
      inTemplate | inValues
    · rcases mem_characters_of_storedText charset found inTemplate with isBreak | inSet
      · exact Or.inr (Or.inl isBreak)
      · exact Or.inl inSet
    · exact Or.inr (Or.inr inValues)

/-- A tree with a text in one of two languages, which has a doubled brace, an escaped break and a token. -/
def bracedTree : Tree := .make [.leaf "hello" (.ofList [("en", "\x7b\x7bHi\x7d\x7d\\n\x7bname\x7d")])]
  ["ja", "en"] "0" []

theorem shown_characters_covered_braced :
    let resolver := make bracedTree none true none
    let values : Fields := [("name", .text "Aiko")]
    (resolver.resolve "ja" "hello" none).result = .ok "\x7b\x7bHi\x7d\x7d\n\x7bname\x7d" ∧
      (resolver.resolve "ja" "hello" (some values)).result = .ok "\x7bHi\x7d\nAiko" ∧
      (.scalar 'H' ∈ (Charset.mk false none).characters bracedTree) ∧
      ∀ point ∈ Text.ofString "\x7bHi\x7d\nAiko",
        point ∈ (Charset.mk false none).characters bracedTree ∨ point = '\n' ∨
          Template.InValues values point := by
  intro resolver values
  have shown : (resolver.resolve "ja" "hello" none).result =
      .ok "\x7b\x7bHi\x7d\x7d\n\x7bname\x7d" := rfl
  have replaced : (resolver.resolve "ja" "hello" (some values)).result = .ok "\x7bHi\x7d\nAiko" := by
    decide +kernel
  have bare : ∀ stored, (resolver.storedText "ja" "hello").result = .ok stored →
      Template.HasBareTokens (Template.unescapeNewlines stored) := by
    have found : (resolver.storedText "ja" "hello").result = .ok "\x7b\x7bHi\x7d\x7d\\n\x7bname\x7d" :=
      rfl
    rw [found]
    rintro _ ⟨⟩
    decide +kernel
  have texts : Template.AreTexts values := by
    intro field listed
    rw [List.mem_singleton.mp listed]
    exact ⟨_, rfl⟩
  have covered := shown_characters_covered ⟨false, none⟩ bracedTree none none "ja" "hello"
  exact ⟨shown, replaced, (covered _).1 shown 'H' (by decide) (by decide),
    (covered _).2 values texts bare replaced⟩

end Resolver

end Phrasebook
