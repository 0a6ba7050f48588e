import Mathlib.Data.List.FinRange
import Phrasebook.Node.Walk

/-!
# Places in forests

A forest may hold equal nodes more than once, so that a node alone does not tell where it stands. A
place does: it gives the index of a root, or that of a root and a place among the children of it. Every
place has a node, and the walk of a forest meets each of its places once.
-/

namespace Phrasebook

open Node

/-- A place in a forest: that of a root, or one under a root. -/
inductive Place : List Node → Type where
  | root {nodes : List Node} (index : Fin nodes.length) : Place nodes
  | under {nodes : List Node} (index : Fin nodes.length) (place : Place nodes[index].children) :
      Place nodes

namespace Place

variable {nodes : List Node}

/-- The node at a place. -/
def node {nodes : List Node} : Place nodes → Node
  | root index => nodes[index]
  | under _ place => place.node

/-- The nodes from a root down to the node at a place. -/
def lineage {nodes : List Node} : Place nodes → List Node
  | root index => [nodes[index]]
  | under index place => nodes[index] :: place.lineage

/-- The keys from a root down to a place. -/
def keys (place : Place nodes) : List Text := place.lineage.map Node.key

/-- The key path of a place, in a forest below a parent. -/
def pathBelow {nodes : List Node} (parent : Option Text) : Place nodes → Text
  | root index => KeyPath.join parent nodes[index].key
  | under index place => place.pathBelow (some (KeyPath.join parent nodes[index].key))

/-- The key path of a place. -/
def path (place : Place nodes) : Text := place.pathBelow none

/-- What is gathered from the siblings before a place, the nearest first. The roots come after what is
there beforehand. -/
def gathered {α : Type} (gather : List Node → List α) (beforehand : List α) {nodes : List Node} :
    Place nodes → List α
  | root index => gather (nodes.take index.val).reverse ++ beforehand
  | under _ place => place.gathered gather []

/-- The places from a root down to a place. -/
def chain {nodes : List Node} : Place nodes → List (Place nodes)
  | root index => [root index]
  | under index place => root index :: place.chain.map (under index)

/-- An earlier sibling of the node at a place has the same key. -/
def HasTwin {nodes : List Node} : Place nodes → Prop
  | root index => ∃ earlier < index, nodes[earlier].key = nodes[index].key
  | under _ place => place.HasTwin

/-- A node on the way from a root to a place, that at the place included, has an earlier sibling with
the same key. -/
def Shadowed (place : Place nodes) : Prop := ∃ other ∈ place.chain, other.HasTwin

/-- Whether an earlier sibling of the node at a place has the same key. -/
def decideTwin {nodes : List Node} : (place : Place nodes) → Decidable place.HasTwin
  | root index => inferInstanceAs (Decidable (∃ earlier < index, _))
  | under _ place => place.decideTwin

instance (place : Place nodes) : Decidable place.HasTwin := place.decideTwin

instance (place : Place nodes) : Decidable place.Shadowed :=
  inferInstanceAs (Decidable (∃ other ∈ place.chain, other.HasTwin))

theorem countAll_children_lt (index : Fin nodes.length) :
    countAll nodes[index].children < countAll nodes := by
  have below : ∀ {nodes : List Node} {node : Node}, node ∈ nodes → count node ≤ countAll nodes := by
    intro nodes node member
    induction nodes with
    | nil => cases member
    | cons first rest ih =>
      simp only [countAll]
      rcases List.mem_cons.mp member with rfl | later
      · omega
      · have := ih later
        omega
  have := below (List.getElem_mem (l := nodes) index.isLt)
  rw [count_eq] at this
  exact this

/-- The places in a forest, each root before those under it. -/
def all (nodes : List Node) : List (Place nodes) :=
  (List.finRange nodes.length).flatMap fun index =>
    root index :: (all nodes[index].children).map (under index)
termination_by countAll nodes
decreasing_by exact countAll_children_lt index

/-- A place in a forest that has one more node in front. -/
def later {node : Node} {nodes : List Node} : Place nodes → Place (node :: nodes)
  | root index => root index.succ
  | under index place => under index.succ place

theorem node_later {node : Node} (place : Place nodes) :
    (place.later : Place (node :: nodes)).node = place.node := by
  cases place <;> rfl

/-- The place of the first root. -/
def first {node : Node} {rest : List Node} : Place (node :: rest) :=
  root ⟨0, Nat.zero_lt_succ rest.length⟩

/-- A place under the first root. -/
def underFirst {node : Node} {rest : List Node} (place : Place node.children) :
    Place (node :: rest) :=
  under ⟨0, Nat.zero_lt_succ rest.length⟩ place

/-- The places in a forest are the first root, those under it, and those in the rest of the forest. -/
theorem all_cons (node : Node) (rest : List Node) :
    all (node :: rest) = first :: ((all node.children).map underFirst ++ (all rest).map later) := by
  have indices : List.finRange (node :: rest).length =
      ⟨0, Nat.zero_lt_succ rest.length⟩ :: (List.finRange rest.length).map Fin.succ :=
    List.finRange_succ
  rw [all, indices, List.flatMap_cons, List.flatMap_map, List.cons_append]
  conv_rhs => rw [all.eq_def rest, List.map_flatMap]
  simp only [List.map_cons, List.map_map]
  rfl

theorem mem_all (place : Place nodes) : place ∈ all nodes := by
  induction place with
  | root index =>
    rw [all]
    simp only [List.mem_flatMap]
    exact ⟨index, List.mem_finRange index, List.mem_cons_self⟩
  | under index place ih =>
    rw [all]
    simp only [List.mem_flatMap]
    exact ⟨index, List.mem_finRange index, List.mem_cons_of_mem _ (List.mem_map_of_mem ih)⟩

theorem nodup_all (nodes : List Node) : (all nodes).Nodup := by
  induction size : countAll nodes using Nat.strongRecOn generalizing nodes with
  | ind size ih =>
    subst size
    rw [all, List.nodup_flatMap]
    constructor
    · intro index _
      rw [List.nodup_cons]
      constructor
      · simp
      · apply (ih _ (countAll_children_lt index) _ rfl).map
        intro first second same
        cases same
        rfl
    · apply (List.nodup_finRange nodes.length).imp
      intro first second other place inFirst inSecond
      simp only [List.mem_cons, List.mem_map] at inFirst inSecond
      rcases inFirst with rfl | ⟨_, _, rfl⟩
      · rcases inSecond with same | ⟨_, _, same⟩
        · cases same
          exact other rfl
        · cases same
      · rcases inSecond with same | ⟨_, _, same⟩
        · cases same
        · cases same
          exact other rfl

/-! ### Visits -/

section Visits

variable {α β : Type} (descend : α → Node → α) (answer : α → Node → β)

/-- What a place makes of a value that changes on the way down to it. -/
def label {nodes : List Node} (start : α) : Place nodes → α
  | root _ => start
  | under index place => place.label (descend start nodes[index])

theorem visit_append (first second : Pending α) :
    visit descend answer (first ++ second) =
      visit descend answer first ++ visit descend answer second := by
  fun_induction visit descend answer first with
  | case1 => rfl
  | case2 value node rest ih =>
    rw [List.cons_append, visit, ← List.append_assoc, ih]
    rfl

theorem visit_map (start : α) (nodes : List Node) :
    visit descend answer (nodes.map (start, ·)) =
      nodes.flatMap fun node =>
        answer start node :: visit descend answer (node.children.map (descend start node, ·)) := by
  induction nodes with
  | nil => simp [visit]
  | cons node rest ih =>
    rw [List.map_cons, visit, visit_append, ih]
    rfl

theorem flatMap_eq_finRange {γ : Type} {items : List γ} (f : γ → List β) :
    items.flatMap f = (List.finRange items.length).flatMap fun index => f items[index] := by
  conv_lhs => rw [← List.map_get_finRange items, List.flatMap_map]
  rfl

/-- A visit meets the places of a forest. -/
theorem visit_eq_map_all (start : α) (nodes : List Node) :
    visit descend answer (nodes.map (start, ·)) =
      (all nodes).map fun place => answer (place.label descend start) place.node := by
  induction size : countAll nodes using Nat.strongRecOn generalizing start nodes with
  | ind size ih =>
    subst size
    rw [visit_map, flatMap_eq_finRange, all, List.map_flatMap]
    congr 1
    funext index
    rw [ih _ (countAll_children_lt index) _ _ rfl, List.map_cons, List.map_map]
    rfl

end Visits

theorem pathBelow_eq_label (parent : Option Text) (place : Place nodes) :
    place.pathBelow parent =
      KeyPath.join (place.label (fun parent node => some (KeyPath.join parent node.key)) parent)
        place.node.key := by
  induction place generalizing parent with
  | root index => rfl
  | under index place ih => exact ih _

/-- The walk of a forest meets each place once, with its key path and its node. -/
theorem walk_eq_map_all (roots : List Node) :
    walk roots = (all roots).map fun place => (place.path, place.node) := by
  rw [walk, visit_eq_map_all]
  apply List.map_congr_left
  intro place _
  rw [path, pathBelow_eq_label]

theorem mem_walk {roots : List Node} (place : Place roots) : (place.path, place.node) ∈ walk roots := by
  rw [walk_eq_map_all]
  exact List.mem_map_of_mem place.mem_all

/-! ### Entries -/

/-- The nodes of a forest below a parent with their key paths, each before those under it. -/
def entriesBelow (parent : Option Text) (nodes : List Node) : List (Text × Node) :=
  (all nodes).map fun place => (place.pathBelow parent, place.node)

theorem entriesBelow_nil (parent : Option Text) : entriesBelow parent [] = [] := by
  rw [entriesBelow, all]
  rfl

theorem entriesBelow_eq_flatMap (parent : Option Text) (nodes : List Node) :
    entriesBelow parent nodes =
      nodes.flatMap fun node =>
        (KeyPath.join parent node.key, node) ::
          entriesBelow (some (KeyPath.join parent node.key)) node.children := by
  rw [flatMap_eq_finRange, entriesBelow, all, List.map_flatMap]
  simp only [List.map_cons, List.map_map]
  rfl

theorem entriesBelow_cons (parent : Option Text) (node : Node) (rest : List Node) :
    entriesBelow parent (node :: rest) =
      (KeyPath.join parent node.key, node) ::
        (entriesBelow (some (KeyPath.join parent node.key)) node.children ++
          entriesBelow parent rest) := by
  simp only [entriesBelow_eq_flatMap parent, List.flatMap_cons, List.cons_append]

/-! ### Keys -/

@[simp]
theorem keys_root (index : Fin nodes.length) : (root index).keys = [nodes[index].key] := rfl

@[simp]
theorem keys_under (index : Fin nodes.length) (place : Place nodes[index].children) :
    (under index place).keys = nodes[index].key :: place.keys := rfl

theorem node_mem_lineage (place : Place nodes) : place.node ∈ place.lineage := by
  induction place with
  | root index => exact List.mem_singleton_self _
  | under index place ih => exact List.mem_cons_of_mem _ ih

theorem keys_ne_nil (place : Place nodes) : place.keys ≠ [] := by
  cases place <;> simp

theorem hasTwin_root {index : Fin nodes.length} :
    (root index).HasTwin ↔ nodes[index].key ∈ ((nodes.take index.val).map Node.key).reverse := by
  simp only [HasTwin, List.mem_reverse, List.mem_map, List.mem_take_iff_getElem]
  constructor
  · rintro ⟨earlier, before, same⟩
    exact ⟨_, ⟨earlier, by omega, rfl⟩, same⟩
  · rintro ⟨_, ⟨earlier, bound, rfl⟩, same⟩
    exact ⟨⟨earlier, by omega⟩, by simp [Fin.lt_def]; omega, same⟩

theorem shadowed_root (index : Fin nodes.length) :
    (root index).Shadowed ↔ (root index).HasTwin := by
  simp [Shadowed, chain]

theorem shadowed_under (index : Fin nodes.length) (place : Place nodes[index].children) :
    (under index place).Shadowed ↔ (root index).HasTwin ∨ place.Shadowed := by
  simp [Shadowed, chain, HasTwin]

/-! ### Finding places -/

/-- The place that a list of keys leads to, by the first node with each key. -/
def find? (nodes : List Node) : List Text → Option (Place nodes)
  | [] => none
  | key :: rest =>
    (nodes.findFinIdx? (·.key = key)).bind fun index =>
      match rest with
      | [] => some (root index)
      | _ :: _ => (find? nodes[index].children rest).map (under index)

theorem find?_single (nodes : List Node) (key : Text) :
    find? nodes [key] = (nodes.findFinIdx? (·.key = key)).bind (some ∘ root) := rfl

theorem find?_cons_cons (nodes : List Node) (key next : Text) (rest : List Text) :
    find? nodes (key :: next :: rest) =
      (nodes.findFinIdx? (·.key = key)).bind fun index =>
        (find? nodes[index].children (next :: rest)).map (under index) := rfl

/-- The first node with a key, and no earlier one has it. -/
theorem findFinIdx?_key {key : Text} {index : Fin nodes.length} :
    nodes.findFinIdx? (·.key = key) = some index ↔
      nodes[index].key = key ∧ ¬(root index).HasTwin := by
  simp only [List.findFinIdx?_eq_some_iff, decide_eq_true_eq, HasTwin, not_exists, not_and]
  constructor
  · rintro ⟨rfl, first⟩
    exact ⟨rfl, first⟩
  · rintro ⟨rfl, first⟩
    exact ⟨rfl, first⟩

/-- The look-up leads to the place with the given keys that nothing shadows. -/
theorem find?_eq_some {keys : List Text} {place : Place nodes} :
    find? nodes keys = some place ↔ place.keys = keys ∧ ¬place.Shadowed := by
  induction place generalizing keys with
  | root index =>
    rw [keys_root, shadowed_root]
    rcases keys with _ | ⟨key, _ | ⟨next, rest⟩⟩
    · simp [find?]
    · simp only [find?_single, Option.bind_eq_some_iff, Function.comp_apply, Option.some.injEq,
        root.injEq, exists_eq_right, findFinIdx?_key, List.cons.injEq, and_true]
    · simp [find?_cons_cons, Option.bind_eq_some_iff]
  | under index place ih =>
    rw [keys_under, shadowed_under]
    rcases keys with _ | ⟨key, _ | ⟨next, rest⟩⟩
    · simp [find?]
    · simp [find?_single, Option.bind_eq_some_iff, keys_ne_nil]
    · simp only [find?_cons_cons, Option.bind_eq_some_iff, Option.map_eq_some_iff,
        List.cons.injEq, not_or]
      constructor
      · rintro ⟨other, found, _, below, same⟩
        cases same
        rcases findFinIdx?_key.mp found with ⟨named, first⟩
        rcases ih.mp below with ⟨keys, clear⟩
        exact ⟨⟨named, keys⟩, first, clear⟩
      · rintro ⟨⟨named, keys⟩, first, clear⟩
        exact ⟨index, findFinIdx?_key.mpr ⟨named, first⟩, place, ih.mpr ⟨keys, clear⟩, rfl⟩

end Place

end Phrasebook
