import Phrasebook.Node.Graph
import Phrasebook.Proofs.Node.Equality

/-!
# Shared nodes

The nodes of a graph are objects: each stands for the copy of it that a forest takes, and two of them
are identical if they have one number. A node that is used twice is one object, while the copies of two
nodes may be the same. A comparison of nodes in a graph answers as one of their copies does, so it makes
no difference to it what is shared.
-/

namespace Phrasebook.NodeGraph

open Node (Objects)

/-- The copy of a node, made of copies of its children. -/
def copyOf (made : Array Node) (node : GraphNode) : Node :=
  match node.children with
  | none => .leaf node.key node.texts
  | some numbers => .branch node.key node.texts (numbers.filterMap (made[·]?))

theorem copy_eq_push (made : Array Node) (node : GraphNode) :
    copy made node = made.push (copyOf made node) := rfl

theorem children?_copyOf (made : Array Node) (node : GraphNode) :
    (copyOf made node).children? = node.children.map fun numbers => numbers.filterMap (made[·]?) := by
  unfold copyOf
  split
  · rename_i childless
    simp [childless, Node.children?]
  · rename_i numbers branch
    simp [branch, Node.children?]

/-- More copies change nothing for a node whose children have been copied. -/
theorem copyOf_push {made : Array Node} {node : GraphNode} (later : Node)
    (copied : ∀ child ∈ node.children.getD [], child < made.size) :
    copyOf (made.push later) node = copyOf made node := by
  unfold copyOf
  split
  · rfl
  · rename_i numbers branch
    rw [branch, Option.getD_some] at copied
    congr 1
    apply List.filterMap_congr
    intro child member
    rw [Array.getElem?_push_lt (copied child member), Array.getElem?_eq_getElem (copied child member)]

/-- The first nodes of a graph have been copied. -/
structure Copied (graph : NodeGraph) (count : Nat) (made : Array Node) : Prop where
  size : made.size = count
  copies : ∀ number (bound : number < graph.nodes.size), number < count →
    made[number]? = some (copyOf made graph.nodes[number])

theorem Copied.push {graph : NodeGraph} {made : Array Node} (number : Fin graph.nodes.size)
    (copied : Copied graph number made) :
    Copied graph (number + 1) (copy made graph.nodes[number]) := by
  rw [copy_eq_push]
  have stable : ∀ earlier (bound : earlier < graph.nodes.size), earlier ≤ number →
      ∀ later, copyOf (made.push later) graph.nodes[earlier] = copyOf made graph.nodes[earlier] := by
    intro earlier bound before later
    apply copyOf_push
    intro child member
    have := graph.descending earlier bound child member
    have := copied.size
    omega
  refine ⟨by rw [Array.size_push, copied.size], fun earlier bound before => ?_⟩
  -- An old copy and the new one are both made of copies that were there before.
  rcases Nat.lt_succ_iff_lt_or_eq.mp before with old | rfl
  · rw [stable earlier bound (Nat.le_of_lt old), Array.getElem?_push_lt (by rw [copied.size]; exact old),
      ← Array.getElem?_eq_getElem, copied.copies earlier bound old]
  · rw [stable number bound Nat.le.refl, Array.getElem?_push]
    simp [copied.size]

/-- The copies of all nodes of a graph, by number. -/
def copies (graph : NodeGraph) : Array Node := graph.nodes.foldl copy #[]

theorem copied (graph : NodeGraph) : Copied graph graph.nodes.size graph.copies :=
  Array.foldl_induction (Copied graph) ⟨rfl, fun _ _ before => absurd before (Nat.not_lt_zero _)⟩
    fun number _ => Copied.push number

theorem size_copies (graph : NodeGraph) : graph.copies.size = graph.nodes.size := graph.copied.size

/-- The node of a graph with a given number, if there is one. -/
def number? (graph : NodeGraph) (number : Nat) : Option (Fin graph.nodes.size) :=
  if bound : number < graph.nodes.size then some ⟨number, bound⟩ else none

/-- The copy of the node with a number. -/
def copyAt (graph : NodeGraph) (number : Fin graph.nodes.size) : Node :=
  graph.copies[number.cast graph.size_copies.symm]

theorem getElem?_copies (graph : NodeGraph) (number : Fin graph.nodes.size) :
    graph.copies[number.val]? = some (graph.copyAt number) :=
  Array.getElem?_eq_getElem (number.cast graph.size_copies.symm).isLt

theorem copyAt_eq (graph : NodeGraph) (number : Fin graph.nodes.size) :
    graph.copyAt number = copyOf graph.copies graph.nodes[number] := by
  have found := graph.copied.copies number number.isLt number.isLt
  rw [graph.getElem?_copies] at found
  exact Option.some.inj found

theorem map_copyAt_number? (graph : NodeGraph) (number : Nat) :
    (graph.number? number).map graph.copyAt = graph.copies[number]? := by
  unfold number?
  split
  · rename_i bound
    exact (graph.getElem?_copies ⟨number, bound⟩).symm
  · rename_i beyond
    have := graph.size_copies
    exact (Array.getElem?_eq_none (by omega)).symm

/-- The nodes of a graph as objects, which are identical if they have one number. -/
def objects (graph : NodeGraph) : Objects (Fin graph.nodes.size) where
  node := graph.copyAt
  children? number := graph.nodes[number].children.map (List.filterMap graph.number?)
  identical first second := first == second
  children_node number := by
    rw [copyAt_eq, children?_copyOf, Option.map_map]
    congr 1
    funext numbers
    simp only [Function.comp_apply, List.map_filterMap, map_copyAt_number?]
  node_eq_of_identical first second identical := by rw [beq_iff_eq.mp identical]

/-- The nodes of a graph are compared as their copies are, whatever is shared. -/
theorem equal_eq_equal_copies (graph : NodeGraph) (first second : Fin graph.nodes.size) :
    graph.objects.equal first second = (graph.copyAt first).equal (graph.copyAt second) := by
  rw [Bool.eq_iff_iff, graph.objects.equal_iff, Node.equal_iff_alike]
  rfl

theorem forest_map_node (graph : NodeGraph) (numbers : List Nat) :
    graph.forest (numbers.map .node) = numbers.filterMap (graph.copies[·]?) := by
  change (numbers.map GraphPlace.node).filterMap _ = _
  rw [List.filterMap_map]
  rfl

/-- The nodes of a forest are those that its objects stand for. -/
theorem forest_eq_filterMap (graph : NodeGraph) (places : List GraphPlace) :
    graph.forest places = places.filterMap fun
      | .node number => (graph.number? number).map graph.objects.node
      | .foreign _ => none := by
  apply List.filterMap_congr
  rintro (number | kindName) _
  · exact (graph.map_copyAt_number? number).symm
  · rfl

end Phrasebook.NodeGraph
