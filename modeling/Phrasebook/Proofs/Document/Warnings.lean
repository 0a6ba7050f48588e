import Mathlib.Data.List.Perm.Basic
import Phrasebook.Proofs.Document.Parsed

/-!
# Warnings about a forest

There is a warning for each place whose node has a discouraged key, and one for each place whose node has
an earlier sibling with its key. Both carry the key path of the place. The first is given before those
about what is below the node and the second when the node is complete, so that the warnings are those of
the places up to order.
-/

namespace Phrasebook

namespace Warning

variable {key path otherKey otherPath : Text}

theorem titleCase_inj :
    titleCase key path = titleCase otherKey otherPath ↔ key = otherKey ∧ path = otherPath := by
  simp [titleCase]

theorem titleCase_ne_duplicate : titleCase key path ≠ duplicate otherKey otherPath := by
  simp [titleCase, duplicate]

end Warning

namespace Document

variable {parent : Option Text} {nodes : List Node}

/-- The warnings in some notes. -/
def warningsIn (notes : List Note) : List Warning := notes.filterMap Note.warning?

/-- The warnings about the node at a place. -/
def warningsAt (parent : Option Text) (place : Place nodes) : List Warning :=
  (if Key.isTitleCase place.node.key then [.titleCase place.node.key (place.pathBelow parent)] else []) ++
    (if place.HasTwin then [.duplicate place.node.key (place.pathBelow parent)] else [])

theorem warningsIn_append (first second : List Note) :
    warningsIn (first ++ second) = warningsIn first ++ warningsIn second :=
  List.filterMap_append

theorem warningsIn_keyNotes (parent : Option Text) (key : Text) :
    warningsIn (keyNotes parent key) =
      if Key.isTitleCase key then [.titleCase key (KeyPath.join parent key)] else [] := by
  unfold keyNotes
  split <;> rfl

theorem warningsIn_completionNotes (parent : Option Text) (earlier : List Text) (key : Text) :
    warningsIn (completionNotes parent earlier key) =
      if key ∈ earlier then [.duplicate key (KeyPath.join parent key)] else [] := by
  unfold completionNotes
  simp only [List.contains_iff_mem]
  split <;> rfl

theorem nodeNotes_eq (parent : Option Text) (node : Node) :
    nodeNotes parent node =
      keyNotes parent node.key ++ siblingNotes (some (KeyPath.join parent node.key)) [] node.children := by
  cases node with
  | leaf key texts => exact (List.append_nil _).symm
  | branch key texts children => rw [nodeNotes, Node.key, Node.children, Node.children?, Option.getD_some]

/-- The notes on siblings, index by index. -/
theorem siblingNotes_eq_flatMap (parent : Option Text) (earlier : List Text) (nodes : List Node) :
    siblingNotes parent earlier nodes =
      (List.finRange nodes.length).flatMap fun index : Fin nodes.length =>
        nodeNotes parent (nodes.get index) ++
          completionNotes parent (((nodes.take index.val).map Node.key).reverse ++ earlier)
            (nodes.get index).key := by
  induction nodes generalizing earlier with
  | nil => rfl
  | cons node rest ih =>
    rw [siblingNotes, ih]
    simp [List.finRange_succ, List.flatMap_map]

theorem warningsAt_root (parent : Option Text) (index : Fin nodes.length) :
    warningsAt parent (.root index) =
      warningsIn (keyNotes parent (nodes.get index).key) ++
        warningsIn (completionNotes parent ((nodes.take index.val).map Node.key).reverse
          (nodes.get index).key) := by
  have earlier : (Place.root index).HasTwin ↔
      (nodes.get index).key ∈ ((nodes.take index.val).map Node.key).reverse := Place.hasTwin_root
  rw [warningsAt, warningsIn_keyNotes, warningsIn_completionNotes]
  by_cases twin : (Place.root index).HasTwin
  · rw [if_pos twin, if_pos (earlier.mp twin)]
    rfl
  · rw [if_neg twin, if_neg (mt earlier.mpr twin)]
    rfl

theorem warningsIn_siblingNotes (parent : Option Text) (nodes : List Node) :
    (warningsIn (siblingNotes parent [] nodes)).Perm ((Place.all nodes).flatMap (warningsAt parent)) := by
  induction size : Node.countAll nodes using Nat.strongRecOn generalizing parent nodes with
  | ind size ih =>
    subst size
    rw [siblingNotes_eq_flatMap, warningsIn, List.filterMap_flatMap, Place.all, List.flatMap_assoc]
    apply List.Perm.flatMap_left
    intro index _
    have below := ih _ (Place.countAll_children_lt index)
      (some (KeyPath.join parent (nodes.get index).key)) _ rfl
    rw [← warningsIn, nodeNotes_eq, List.append_nil, warningsIn_append, warningsIn_append,
      List.flatMap_cons, warningsAt_root, List.flatMap_map, List.append_assoc, List.append_assoc]
    -- The node is complete after its children, while the place of the node comes before theirs.
    exact (List.perm_append_comm.trans (below.append_left _)).append_left _

namespace Parsed

variable {registry : Registry} {tree : Tree}

theorem warnings_perm (parsed : Parsed registry tree) :
    tree.warnings.Perm ((Place.all tree.roots).flatMap (warningsAt none)) := by
  rw [parsed.translated.2.2]
  exact warningsIn_siblingNotes none tree.roots

theorem mem_warnings_iff {found : Warning} (parsed : Parsed registry tree) :
    found ∈ tree.warnings ↔ ∃ place : Place tree.roots,
      (Key.isTitleCase place.node.key ∧ found = .titleCase place.node.key place.path) ∨
        (place.HasTwin ∧ found = .duplicate place.node.key place.path) := by
  rw [parsed.warnings_perm.mem_iff, List.mem_flatMap]
  constructor
  · rintro ⟨place, _, about⟩
    refine ⟨place, ?_⟩
    simpa [warningsAt, Place.path] using about
  · rintro ⟨place, about⟩
    refine ⟨place, place.mem_all, ?_⟩
    simpa [warningsAt, Place.path] using about

theorem mem_warnings_titleCase {key path : Text} (parsed : Parsed registry tree) :
    .titleCase key path ∈ tree.warnings ↔
      Key.isTitleCase key ∧ ∃ entry ∈ tree.walk, entry.1 = path ∧ entry.2.key = key := by
  rw [parsed.mem_warnings_iff]
  constructor
  · rintro ⟨place, ⟨titleCase, same⟩ | ⟨_, same⟩⟩
    · rcases Warning.titleCase_inj.mp same with ⟨rfl, rfl⟩
      exact ⟨titleCase, _, place.mem_walk, rfl, rfl⟩
    · exact absurd same Warning.titleCase_ne_duplicate
  · rintro ⟨titleCase, _, met, rfl, rfl⟩
    rw [Tree.walk, Place.walk_eq_map_all] at met
    rcases List.mem_map.mp met with ⟨place, _, rfl⟩
    exact ⟨place, Or.inl ⟨titleCase, rfl⟩⟩

end Parsed

end Document

end Phrasebook
