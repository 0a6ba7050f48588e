import Phrasebook.Proofs.Node.Inspection

/-!
# Making nodes

A node is made of nodes that have been made before. It is put after these, with their numbers as those of its
children, and nothing that stood in the graph changes. If every node made so far stands at one position under
some numbers, so it is after some of these have been taken for the children of a new node.
-/

namespace Phrasebook.NodeGraph

variable {graph after : NodeGraph} {node : GraphNode} {numbers : List Nat}

theorem mem_occupants (graph : NodeGraph) {number : Nat} (member : number ∈ numbers) :
    number ∈ graph.occupants numbers := by
  rw [occupants_eq_flatMap, List.mem_flatMap]
  exact ⟨number, member, List.mem_cons_self⟩

/-- The order of some nodes is that of what is under them. -/
theorem occupants_perm (graph : NodeGraph) {first second : List Nat} (same : first.Perm second) :
    (graph.occupants first).Perm (graph.occupants second) := by
  rw [occupants_eq_flatMap graph first, occupants_eq_flatMap graph second]
  exact same.flatMap_right _

/-- What stands under some nodes depends on the children of nodes up to them. -/
theorem occupants_congr {limit : Nat} (same : ∀ number < limit, after.childrenOf number = graph.childrenOf number)
    (below : ∀ number ∈ numbers, number < limit) : after.occupants numbers = graph.occupants numbers := by
  induction numbers using children_induction graph with
  | step numbers ih =>
    rw [occupants_eq_flatMap after numbers, occupants_eq_flatMap graph numbers]
    apply List.flatMap_congr
    intro number member
    have bound := below number member
    rw [same number bound, ih number member]
    intro child under
    exact Nat.lt_trans (lt_of_mem_childrenOf under) bound

/-! ### A node more -/

section Pushed

variable (pushed : after.nodes = graph.nodes.push node)

include pushed

theorem size_of_pushed : after.nodes.size = graph.nodes.size + 1 := by
  rw [pushed, Array.size_push]

theorem childrenOf_of_pushed {number : Nat} (old : number < graph.nodes.size) :
    after.childrenOf number = graph.childrenOf number := by
  rw [childrenOf, childrenOf, pushed, Array.getElem?_push_lt old, Array.getElem?_eq_getElem old]

theorem childrenOf_pushed : after.childrenOf graph.nodes.size = node.children.getD [] := by
  rw [childrenOf, pushed, Array.getElem?_push_size]
  rfl

/-- What stood under old nodes stands there. -/
theorem occupants_of_pushed (old : ∀ number ∈ numbers, number < graph.nodes.size) :
    after.occupants numbers = graph.occupants numbers :=
  occupants_congr (fun _ => childrenOf_of_pushed pushed) old

theorem copies_of_pushed : after.copies = graph.copies.push (copyOf graph.copies node) := by
  rw [copies, pushed, Array.foldl_push]
  rfl

/-- The forest of old nodes is the one that it was. -/
theorem forest_of_pushed (old : ∀ number ∈ numbers, number < graph.nodes.size) :
    after.forest (numbers.map .node) = graph.forest (numbers.map .node) := by
  rw [forest_map_node, forest_map_node, copies_of_pushed pushed]
  apply List.filterMap_congr
  intro number member
  have bound : number < graph.copies.size := by
    rw [size_copies]
    exact old number member
  rw [Array.getElem?_push_lt bound, Array.getElem?_eq_getElem bound]

/-- A new node is made of copies of its children. -/
theorem forest_pushed (old : ∀ number ∈ numbers, number < graph.nodes.size) :
    after.forest ((graph.nodes.size :: numbers).map .node) =
      copyOf graph.copies node :: graph.forest (numbers.map .node) := by
  rw [← forest_of_pushed pushed old, forest_map_node, forest_map_node]
  apply List.filterMap_cons_some
  rw [copies_of_pushed pushed, ← size_copies, Array.getElem?_push_size]

/-- Each node stands at one position, if it did before some of the nodes were put under a new one. -/
theorem perm_occupants_pushed {children others : List Nat} (owned : (node.children.getD []).Perm children)
    (once : (graph.occupants (children ++ others)).Perm (List.range graph.nodes.size)) :
    (after.occupants (graph.nodes.size :: others)).Perm (List.range after.nodes.size) := by
  have old : ∀ number ∈ children ++ others, number < graph.nodes.size := fun number member =>
    List.mem_range.mp (once.mem_iff.mp (graph.mem_occupants member))
  rw [List.forall_mem_append] at old
  rw [size_of_pushed pushed, List.range_succ, occupants_cons, childrenOf_pushed pushed,
    occupants_of_pushed pushed old.2,
    occupants_of_pushed pushed fun number member => old.1 number (owned.mem_iff.mp member)]
  apply List.Perm.trans _ (List.perm_append_singleton _ _).symm
  apply List.Perm.cons
  rw [← occupants_append]
  exact (graph.occupants_perm (owned.append_right others)).trans once

end Pushed

/-! ### Making a node -/

theorem checkChildren_of_bounded (key : Text) (bounded : ∀ number ∈ numbers, number < graph.nodes.size) :
    graph.checkChildren key (numbers.map .node) = .ok ⟨numbers, bounded⟩ := by
  induction numbers with
  | nil => rfl
  | cons number rest ih =>
    rw [List.forall_mem_cons] at bounded
    rw [List.map_cons, checkChildren, dif_pos bounded.1, ih bounded.2]
    rfl

theorem add_leaf (graph : NodeGraph) (key : Text) (texts : LocalTexts) :
    ∃ after, graph.add key texts none = .ok (graph.nodes.size, after) ∧
      after.nodes = graph.nodes.push ⟨key, texts, none⟩ :=
  ⟨_, rfl, rfl⟩

/-- A branch can be made of nodes that have been made. -/
theorem add_branch (graph : NodeGraph) (key : Text) (texts : LocalTexts)
    (bounded : ∀ number ∈ numbers, number < graph.nodes.size) :
    ∃ after, graph.add key texts (some (numbers.map .node)) = .ok (graph.nodes.size, after) ∧
      after.nodes = graph.nodes.push ⟨key, texts, some numbers⟩ := by
  simp only [add, Option.map_some, Option.getD_some, checkChildren_of_bounded key bounded]
  exact ⟨_, rfl, rfl⟩

end Phrasebook.NodeGraph
