import Phrasebook.Node.Basic

/-!
# Equality of nodes

Two nodes are equal if their subtrees have the same shape and the same keys, and hold the same texts
at every place, in whatever order. The comparison keeps the pairs that are still to be compared on a
stack of its own, so that the depth of the trees is not limited by that of calls.

What is compared are objects that stand for nodes. One object may stand in several places, and an
object is equal to itself without a look at what is below it.
-/

namespace Phrasebook.Node

/-- Whether two nodes have the same key and texts. -/
def sameContent (first second : Node) : Bool :=
  first.key == second.key && first.texts.same second.texts

/-- Objects that stand for nodes. Two objects may stand for one node and still be told apart. -/
structure Objects (α : Type) where
  /-- The node that an object stands for. -/
  node : α → Node
  /-- The objects for the children of a branch. -/
  children? : α → Option (List α)
  /-- Whether two objects are known to be one and the same. -/
  identical : α → α → Bool
  children_node : ∀ object, (node object).children? = (children? object).map (List.map node)
  node_eq_of_identical : ∀ first second, identical first second → node first = node second

namespace Objects

variable {α : Type}

/-- Nodes as objects of their own, none of which is known to be another one. -/
def values : Objects Node where
  node := id
  children? := Node.children?
  identical _ _ := false
  children_node := by simp
  node_eq_of_identical := by simp

/-- How many nodes the first halves of some pairs hold. -/
def pairWeight (objects : Objects α) (pairs : List (α × α)) : Nat :=
  countAll (pairs.map fun pair => objects.node pair.1)

theorem pairWeight_cons (objects : Objects α) (first second : α) (rest : List (α × α)) :
    objects.pairWeight ((first, second) :: rest) =
      count (objects.node first) + objects.pairWeight rest := by
  simp [pairWeight, countAll]

theorem pairWeight_reverse_append (objects : Objects α) (first second : List (α × α)) :
    objects.pairWeight (first.reverse ++ second) =
      objects.pairWeight first + objects.pairWeight second := by
  simp [pairWeight, countAll_append, countAll_reverse]

theorem pairWeight_zip_le (objects : Objects α) (first second : List α) :
    objects.pairWeight (first.zip second) ≤ countAll (first.map objects.node) := by
  induction first generalizing second with
  | nil => simp [pairWeight, countAll]
  | cons object rest ih =>
    cases second with
    | nil => simp [pairWeight, countAll]
    | cons other others =>
      have := ih others
      rw [List.zip_cons_cons, pairWeight_cons, List.map_cons, countAll]
      omega

theorem count_of_children (objects : Objects α) {object : α} {children : List α}
    (branch : objects.children? object = some children) :
    count (objects.node object) = countAll (children.map objects.node) + 1 := by
  rw [count_eq, Node.children, objects.children_node, branch]
  rfl

/-- Whether the nodes of every pair are equal. The pairs of children go on top of the stack, so that
the last ones are compared first. -/
def allEqual (objects : Objects α) (pairs : List (α × α)) : Bool :=
  match pairs with
  | [] => true
  | (first, second) :: rest =>
    if objects.identical first second then objects.allEqual rest
    else if !sameContent (objects.node first) (objects.node second) then false
    else
      match _branch : objects.children? first, objects.children? second with
      | none, none => objects.allEqual rest
      | some children, some others =>
        children.length == others.length &&
          objects.allEqual ((children.zip others).reverse ++ rest)
      | _, _ => false
termination_by objects.pairWeight pairs
decreasing_by
  · have := count_pos (objects.node first)
    rw [pairWeight_cons]
    omega
  · have := count_pos (objects.node first)
    rw [pairWeight_cons]
    omega
  · have := objects.pairWeight_zip_le children others
    rw [pairWeight_reverse_append, pairWeight_cons, objects.count_of_children _branch]
    omega

/-- Whether two objects stand for equal nodes. -/
def equal (objects : Objects α) (first second : α) : Bool := objects.allEqual [(first, second)]

end Objects

/-- Whether two nodes are equal. -/
def equal (first second : Node) : Bool := Objects.values.equal first second

/-- Whether two lists of nodes are equal one by one. -/
def equalLists (first second : List Node) : Bool :=
  first.length == second.length && Objects.values.allEqual (first.zip second)

/-- What a hash of a node is made from: its key, its texts in order, and the keys of its children. -/
structure HashInput where
  key : Text
  texts : List (Text × Text)
  childKeys : Option (List Text)
deriving DecidableEq

/-- The hash input of a node. -/
def hashInput (node : Node) : HashInput :=
  { key := node.key
    texts := node.texts.entries
    childKeys := node.children?.map fun _ => node.childKeys }

end Phrasebook.Node
