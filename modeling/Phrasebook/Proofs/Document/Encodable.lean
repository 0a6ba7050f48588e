import Phrasebook.Proofs.Document.Warnings
import Phrasebook.Proofs.Language.Registry
import Phrasebook.Proofs.Node.Canonical
import Phrasebook.Proofs.Text.Encodable

/-!
# Trees that can be encoded

A document may hold surrogates, escaped or not. They are not let into a tree: a key with one is no key, a
text with one is refused, also if it is put together from lines, and a registry has no code with one. A
warning holds nothing but the key and the key path of a node.
-/

namespace Phrasebook.Document

open Format

/-- What a valid object says has no surrogates. -/
theorem Format.Head.isEncodable {codes : List Text} {object : Fields} {key : Text} {texts : LocalTexts}
    (head : Head codes object key texts) (known : ∀ code ∈ codes, code.isEncodable) :
    key.isEncodable ∧ ∀ entry ∈ texts.entries, entry.1.isEncodable ∧ entry.2.isEncodable := by
  refine ⟨Key.isEncodable_of_isValid head.keyed.valid, ?_⟩
  rcases head.read with ⟨given, _, read, _, entries⟩
  rw [entries]
  intro entry listed
  rcases List.mem_filterMap.mp listed with ⟨code, isCode, made⟩
  rcases Option.map_eq_some_iff.mp made with ⟨text, gave, rfl⟩
  refine ⟨known code isCode, ?_⟩
  have textOf := read code isCode
  rw [gave] at textOf
  cases textOf with
  | piece _ encodable => exact encodable
  | lines _ _ _ encodable => exact encodable

theorem isEncodable_pathBelow {nodes : List Node} (place : Place nodes) {parent : Option Text}
    (above : ∀ path ∈ parent, path.isEncodable) (keys : ∀ key ∈ place.keys, key.isEncodable) :
    (place.pathBelow parent).isEncodable := by
  induction place generalizing parent with
  | root index =>
    rw [Place.keys_root, List.forall_mem_singleton] at keys
    exact KeyPath.isEncodable_join above keys
  | under index place ih =>
    rw [Place.keys_under, List.forall_mem_cons] at keys
    refine ih ?_ keys.2
    rintro _ ⟨⟩
    exact KeyPath.isEncodable_join above keys.1

/-- The nodes of a tree, their key paths and the warnings have no surrogates. -/
structure IsEncodable (tree : Tree) : Prop where
  nodes : ∀ visited ∈ tree.walk, visited.2.IsEncodable
  paths : ∀ visited ∈ tree.walk, visited.1.isEncodable
  warnings : ∀ warning ∈ tree.warnings, warning.message.isEncodable ∧ warning.keyPath.isEncodable

theorem Parsed.isEncodable {registry : Registry} {tree : Tree} (parsed : Parsed registry tree)
    (accepted : registry.Accepted) : IsEncodable tree := by
  have codes : ∀ code ∈ registry.codes, code.isEncodable := by
    rw [Registry.codes, List.forall_mem_map]
    exact fun language known => ((Registry.accepted_iff.mp accepted).encodable language known).1
  have nodes : ∀ visited ∈ tree.walk, visited.2.IsEncodable := by
    rw [Tree.walk, Place.walk_eq_map_all, List.forall_mem_map]
    intro place _
    rcases parsed.lineage place _ place.node_mem_lineage with ⟨_, translates⟩
    rcases translates.head with ⟨_, head⟩
    exact head.isEncodable codes
  have paths : ∀ visited ∈ tree.walk, visited.1.isEncodable := by
    rw [Tree.walk, Place.walk_eq_map_all, List.forall_mem_map]
    intro place _
    refine isEncodable_pathBelow place (by simp) fun key onWay => ?_
    exact Key.isEncodable_of_isValid (parsed.key_valid place key onWay)
  refine ⟨nodes, paths, fun warning warned => ?_⟩
  rcases parsed.mem_warnings_iff.mp warned with ⟨place, about⟩
  have path := paths _ place.mem_walk
  have key := (nodes _ place.mem_walk).1
  rcases about with ⟨_, rfl⟩ | ⟨_, rfl⟩ <;>
    simp [Warning.titleCase, Warning.duplicate, Text.isEncodable_ofString, path, key]

end Phrasebook.Document
