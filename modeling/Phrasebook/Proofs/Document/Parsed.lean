import Phrasebook.Document.Source
import Phrasebook.Proofs.Document.Translation
import Phrasebook.Proofs.Node.Equality
import Phrasebook.Proofs.Node.Place

/-!
# Trees from documents

What is known of every tree that was read with a registry, be it from a decoded document, a text, bytes
or a file: its forest is the translation of a document, so that its keys are keys, and a node that has
texts has one for each language of the registry.
-/

namespace Phrasebook.Document

open Format Outcome

/-- A tree was read from a document with the languages of a registry, on whatever host. -/
def Parsed (registry : Registry) (tree : Tree) : Prop :=
  ∃ (_ : Host) (data : Datum) (hash : Text), (readData registry data hash).result = .ok tree

variable {codes : List Text} {item : Datum} {node : Node}

theorem Format.Translates.children (translates : Translates codes item node) :
    ∃ items, List.Forall₂ (Translates codes) items node.children := by
  cases translates with
  | leaf => exact ⟨[], .nil⟩
  | branch _ _ below => exact ⟨_, below⟩

theorem Format.Translates.head (translates : Translates codes item node) :
    ∃ object, Head codes object node.key node.texts := by
  cases translates with
  | leaf head => exact ⟨_, head⟩
  | branch head => exact ⟨_, head⟩

theorem Format.Translates.texts_ne_nil {key : Text} {texts : LocalTexts}
    (translates : Translates codes item (.leaf key texts)) : texts.entries ≠ [] := by
  cases translates with
  | leaf head unset => exact head.content.resolve_right (not_not_intro unset)

/-- A node has texts for all codes or for none. -/
theorem Format.Head.codes_eq {object : Fields} {key : Text} {texts : LocalTexts}
    (head : Head codes object key texts) : texts.entries = [] ∨ texts.codes = codes := by
  rcases head.read with ⟨given, _, _, complete, entries⟩
  rcases complete with all | none
  · right
    have pairs : ∀ code ∈ codes, ((given code).map (code, ·)).map Prod.fst = some code := by
      intro code member
      cases found : given code with
      | none => exact absurd found (all code member)
      | some text => rfl
    rw [LocalTexts.codes, entries, List.map_filterMap, List.filterMap_congr pairs,
      List.filterMap_some]
  · left
    rw [entries, List.filterMap_eq_nil_iff]
    intro code member
    rw [none code member]
    rfl

/-- The nodes on the way to a place are translations of items. -/
theorem translates_of_mem_lineage {items : List Datum} {nodes : List Node}
    (translated : List.Forall₂ (Translates codes) items nodes) (place : Place nodes) :
    ∀ node ∈ place.lineage, ∃ item, Translates codes item node := by
  have root : ∀ {items : List Datum} {nodes : List Node} (index : Fin nodes.length),
      List.Forall₂ (Translates codes) items nodes → ∃ item, Translates codes item nodes[index] := by
    intro items nodes index translated
    have bound : index.val < items.length := by
      rw [translated.length_eq]
      exact index.isLt
    exact ⟨_, translated.get bound index.isLt⟩
  induction place generalizing items with
  | root index =>
    simp only [Place.lineage, List.mem_singleton, forall_eq]
    exact root index translated
  | under index place ih =>
    simp only [Place.lineage, List.mem_cons, forall_eq_or_imp]
    rcases root index translated with ⟨item, translates⟩
    rcases translates.children with ⟨_, below⟩
    exact ⟨⟨item, translates⟩, ih below⟩

namespace Parsed

variable {registry : Registry} {tree : Tree}

/-- A forest that a document translates into can be read. -/
theorem of_translates {data : Datum} {roots : List Node} (hash : Text)
    (translated : TranslatesDocument registry.codes data roots) :
    Parsed registry (.make roots registry.codes hash (forestWarnings roots)) :=
  let host : Host := .plain
  ⟨host, data, hash, readData_eq_ok.mpr ⟨roots, translated, rfl⟩⟩

theorem of_readText [host : Host] {limit : Int} {text : Text}
    (read : (readText (some registry) limit text).result = .ok tree) : Parsed registry tree := by
  unfold readText at read
  split at read
  · cases read
  · simp only [reported_bind_eq_ok] at read
    rcases read with ⟨data, _, decoded⟩
    exact ⟨host, data, _, decoded⟩

theorem of_readBytes [Host] {limit : Int} {bytes : Utf8.Bytes}
    (read : (readBytes (some registry) limit bytes).result = .ok tree) : Parsed registry tree := by
  simp only [readBytes, reported_bind_eq_ok] at read
  rcases read with ⟨_, _, read⟩
  exact of_readText read

/-- The forest of a tree is the translation of a document, and its warnings are about this forest. -/
theorem translated (parsed : Parsed registry tree) :
    (∃ data, TranslatesDocument registry.codes data tree.roots) ∧
      tree.languages = registry.codes ∧ tree.warnings = forestWarnings tree.roots := by
  rcases parsed with ⟨_, data, hash, read⟩
  rcases readData_eq_ok.mp read with ⟨roots, translates, rfl⟩
  exact ⟨⟨data, translates⟩, rfl, rfl⟩

theorem lineage (parsed : Parsed registry tree) (place : Place tree.roots) :
    ∀ node ∈ place.lineage, ∃ item, Translates registry.codes item node := by
  rcases parsed.translated.1 with ⟨_, items, _, translated⟩
  exact translates_of_mem_lineage translated place

theorem key_valid (parsed : Parsed registry tree) (place : Place tree.roots) :
    ∀ key ∈ place.keys, Key.isValid key := by
  intro key member
  rcases List.mem_map.mp member with ⟨node, onWay, rfl⟩
  rcases parsed.lineage place node onWay with ⟨_, translates⟩
  rcases translates.head with ⟨_, head⟩
  exact head.keyed.valid

theorem key_ne_nil (parsed : Parsed registry tree) (place : Place tree.roots) :
    ∀ key ∈ place.keys, key ≠ [] := by
  rintro _ member rfl
  have := parsed.key_valid place _ member
  simp [Key.isValid] at this

/-- A node has texts for all languages or for none, and a leaf has texts. -/
theorem texts_complete (parsed : Parsed registry tree) (place : Place tree.roots) :
    (place.node.texts.entries = [] ∧ place.node.isBranch) ∨
      place.node.texts.codes = registry.codes := by
  rcases parsed.lineage place _ place.node_mem_lineage with ⟨item, translates⟩
  rcases translates.head with ⟨_, head⟩
  rcases head.codes_eq with none | all
  · left
    refine ⟨none, ?_⟩
    generalize place.node = node at translates none
    cases node with
    | leaf => exact absurd none translates.texts_ne_nil
    | branch => rfl
  · exact Or.inr all

theorem codes_of_hasText (parsed : Parsed registry tree) (place : Place tree.roots)
    (given : place.node.hasText) : place.node.texts.codes = registry.codes := by
  rcases parsed.texts_complete place with ⟨none, _⟩ | all
  · simp [Node.hasText, LocalTexts.isEmpty, none] at given
  · exact all

/-- The codes of the nodes are those of the registry as soon as one node has texts. -/
theorem forall_codes_iff (parsed : Parsed registry tree) {property : Text → Prop} :
    (∀ entry ∈ tree.walk, ∀ code ∈ entry.2.texts.codes, property code) ↔
      ((∃ entry ∈ tree.walk, entry.2.hasText) → ∀ code ∈ registry.codes, property code) := by
  have complete : ∀ entry ∈ tree.walk, entry.2.hasText → entry.2.texts.codes = registry.codes := by
    rw [Tree.walk, Place.walk_eq_map_all, List.forall_mem_map]
    exact fun place _ => parsed.codes_of_hasText place
  constructor
  · rintro holds ⟨entry, met, hasText⟩ code known
    apply holds entry met
    rwa [complete entry met hasText]
  · intro holds entry met code given
    have hasText : entry.2.hasText := by
      rcases LocalTexts.get?_of_mem given with ⟨text, found⟩
      simpa [Node.hasText, LocalTexts.isEmpty] using (LocalTexts.mem_codes_of_get? found).2
    exact holds ⟨entry, met, hasText⟩ code (complete entry met hasText ▸ given)

/-- Equal nodes that were read with one registry give the same input for a hash, because their texts are
listed in the order of the registry. -/
theorem hashInput_eq_of_equal {other : Tree} (parsed : Parsed registry tree)
    (otherParsed : Parsed registry other) (place : Place tree.roots) (otherPlace : Place other.roots)
    (equal : place.node.equal otherPlace.node) :
    place.node.hashInput = otherPlace.node.hashInput := by
  have alike := Node.equal_iff_alike.mp equal
  have perm := alike.texts_perm
  rw [alike.hashInput_eq_iff]
  rcases parsed.texts_complete place with ⟨none, _⟩ | all
  · rw [none, List.nil_perm] at perm
    rw [LocalTexts.codes, LocalTexts.codes, none, perm]
  · rcases otherParsed.texts_complete otherPlace with ⟨none, _⟩ | otherAll
    · rw [none, List.perm_nil] at perm
      rw [LocalTexts.codes, LocalTexts.codes, none, perm]
    · rw [all, otherAll]

end Parsed

end Phrasebook.Document
