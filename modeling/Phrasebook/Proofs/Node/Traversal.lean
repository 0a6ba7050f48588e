import Phrasebook.Proofs.Node.Place
import Phrasebook.Tree

/-!
# Traversals as recursions

A depth-first traversal, said by recursion on the forest: a node comes before what is below it, and a
node with all below it comes before its next sibling. The walk, the walk with depths and the calls to a
visitor keep what is still to be done in a list instead, and all of them carry out this recursion. The
calls to a visitor also mark where branches are left, which nests them.
-/

namespace Phrasebook.Node

open KeyPath (join)

/-! ### Recursions -/

/-- A node where a traversal meets it. -/
structure Visited where
  /-- How many nodes it has above it. -/
  depth : Nat
  keyPath : Text
  node : Node

mutual

/-- A node at a depth below a parent, and what is below it. -/
def preorderOf (depth : Nat) (parent : Option Text) : Node → List Visited
  | leaf key texts => [⟨depth, join parent key, leaf key texts⟩]
  | branch key texts children =>
    ⟨depth, join parent key, branch key texts children⟩ ::
      preorder (depth + 1) (some (join parent key)) children

/-- Nodes at a depth below a parent, and what is below them. -/
def preorder (depth : Nat) (parent : Option Text) : List Node → List Visited
  | [] => []
  | node :: rest => preorderOf depth parent node ++ preorder depth parent rest

end

mutual

/-- The calls for a node below a parent: a branch is left after all that is below it. -/
def nestedCallsOf (parent : Option Text) : Node → List Call
  | leaf key texts => [.visit (join parent key) (leaf key texts)]
  | branch key texts children =>
    .visit (join parent key) (branch key texts children) ::
      (nestedCalls (some (join parent key)) children ++
        [.leave (join parent key) (branch key texts children)])

/-- The calls for nodes below a parent. -/
def nestedCalls (parent : Option Text) : List Node → List Call
  | [] => []
  | node :: rest => nestedCallsOf parent node ++ nestedCalls parent rest

end

/-- The node that a call visits, with its key path. -/
def Call.visited? : Call → Option (Text × Node)
  | .visit keyPath node => some (keyPath, node)
  | .leave _ _ => none

/-- The branch that a call leaves, with its key path. -/
def Call.left? : Call → Option (Text × Node)
  | .visit _ _ => none
  | .leave keyPath node => some (keyPath, node)

/-- Calls that start inside some branches, the innermost one first, and end outside of all branches. A
branch is entered where it is visited, no leaf is, and only the innermost branch is left. -/
inductive Balanced : List (Text × Node) → List Call → Prop
  | done : Balanced [] []
  | leaf {inside : List (Text × Node)} {keyPath : Text} {node : Node} {rest : List Call}
      (childless : ¬node.isBranch) (later : Balanced inside rest) :
      Balanced inside (.visit keyPath node :: rest)
  | enter {inside : List (Text × Node)} {keyPath : Text} {node : Node} {rest : List Call}
      (branch : node.isBranch) (later : Balanced ((keyPath, node) :: inside) rest) :
      Balanced inside (.visit keyPath node :: rest)
  | leave {inside : List (Text × Node)} {keyPath : Text} {node : Node} {rest : List Call}
      (later : Balanced inside rest) :
      Balanced ((keyPath, node) :: inside) (.leave keyPath node :: rest)

/-! ### Walks -/

/-- A visit makes the places of nodes from their depths and parents, and shows what a traversal meets. -/
structure Carries {α β : Type} (descend : α → Node → α) (answer : α → Node → β)
    (place : Nat → Option Text → α) (shown : Visited → β) : Prop where
  descends (depth : Nat) (parent : Option Text) (node : Node) :
    descend (place depth parent) node = place (depth + 1) (some (join parent node.key))
  answers (depth : Nat) (parent : Option Text) (node : Node) :
    answer (place depth parent) node = shown ⟨depth, join parent node.key, node⟩

section Visits

variable {α β : Type} {descend : α → Node → α} {answer : α → Node → β}
  {place : Nat → Option Text → α} {shown : Visited → β}

mutual

theorem visit_single_eq_preorderOf (carries : Carries descend answer place shown) (depth : Nat)
    (parent : Option Text) (node : Node) :
    visit descend answer [(place depth parent, node)] =
      (preorderOf depth parent node).map shown := by
  cases node with
  | leaf key texts =>
    rw [visit, carries.answers]
    simp [visit, preorderOf, children, children?, Node.key]
  | branch key texts children =>
    have below := visit_eq_preorder carries (depth + 1) (some (join parent key)) children
    rw [visit, carries.answers, carries.descends, List.append_nil]
    exact congrArg (shown ⟨depth, join parent key, branch key texts children⟩ :: ·) below

/-- A visit of nodes carries out the recursion, whatever it makes of their depths and parents. -/
theorem visit_eq_preorder (carries : Carries descend answer place shown) (depth : Nat)
    (parent : Option Text) (nodes : List Node) :
    visit descend answer (nodes.map (place depth parent, ·)) =
      (preorder depth parent nodes).map shown := by
  cases nodes with
  | nil => simp [visit, preorder]
  | cons node rest =>
    have here := visit_single_eq_preorderOf carries depth parent node
    have later := visit_eq_preorder carries depth parent rest
    rw [List.map_cons, ← List.singleton_append, Place.visit_append, here, later, preorder,
      List.map_append]

end

end Visits

theorem walk_eq_preorder (roots : List Node) :
    walk roots = (preorder 0 none roots).map fun visited => (visited.keyPath, visited.node) := by
  have carries : Carries (fun parent node => some (join parent node.key))
      (fun parent node => (join parent node.key, node)) (fun _ parent => parent)
      fun visited => (visited.keyPath, visited.node) :=
    ⟨fun _ _ _ => rfl, fun _ _ _ => rfl⟩
  exact visit_eq_preorder carries 0 none roots

theorem walkDepths_eq_preorder (roots : List Node) :
    walkDepths roots = (preorder 0 none roots).map fun visited => (visited.depth, visited.node) := by
  have carries : Carries (fun depth _ => depth + 1) Prod.mk (fun depth _ => depth)
      fun visited => (visited.depth, visited.node) :=
    ⟨fun _ _ _ => rfl, fun _ _ _ => rfl⟩
  exact visit_eq_preorder carries 0 none roots

/-! ### Calls -/

theorem calls_append (first second : List Task) :
    calls (first ++ second) = calls first ++ calls second := by
  fun_induction calls first with
  | case1 => rfl
  | case2 path node rest ih => rw [List.cons_append, calls, ih, List.cons_append]
  | case3 path node rest ih =>
    cases node with
    | leaf => rw [List.cons_append, calls, ih, List.cons_append]
    | branch key texts children =>
      rw [List.cons_append, calls, ← List.cons_append, ← List.append_assoc, ih, List.cons_append]

mutual

theorem calls_enter (parent : Option Text) (node : Node) :
    calls [.enter (join parent node.key) node] = nestedCallsOf parent node := by
  cases node with
  | leaf key texts =>
    rw [calls, calls]
    rfl
  | branch key texts children =>
    have below : calls (Task.enterAll (join parent key) children) =
        nestedCalls (some (join parent key)) children :=
      calls_enterBelow (some (join parent key)) children
    rw [calls, calls_append]
    dsimp only [Node.key]
    rw [below, calls, calls, nestedCallsOf]

/-- The tasks to visit nodes carry out the recursion. -/
theorem calls_enterBelow (parent : Option Text) (nodes : List Node) :
    calls (nodes.map fun node => .enter (join parent node.key) node) = nestedCalls parent nodes := by
  cases nodes with
  | nil => simp [calls, nestedCalls]
  | cons node rest =>
    rw [List.map_cons, ← List.singleton_append, calls_append, calls_enter parent node,
      calls_enterBelow parent rest, nestedCalls]

end

theorem traversal_eq_nestedCalls (roots : List Node) : traversal roots = nestedCalls none roots :=
  calls_enterBelow none roots

mutual

/-- The nodes that are visited, at whatever depth. -/
theorem visited_nestedCallsOf (depth : Nat) (parent : Option Text) (node : Node) :
    (nestedCallsOf parent node).filterMap Call.visited? =
      (preorderOf depth parent node).map fun visited => (visited.keyPath, visited.node) := by
  cases node with
  | leaf key texts => rfl
  | branch key texts children =>
    have below := visited_nestedCalls (depth + 1) (some (join parent key)) children
    simp [nestedCallsOf, preorderOf, Call.visited?, below]

theorem visited_nestedCalls (depth : Nat) (parent : Option Text) (nodes : List Node) :
    (nestedCalls parent nodes).filterMap Call.visited? =
      (preorder depth parent nodes).map fun visited => (visited.keyPath, visited.node) := by
  cases nodes with
  | nil => rfl
  | cons node rest =>
    rw [nestedCalls, List.filterMap_append, visited_nestedCallsOf depth parent node,
      visited_nestedCalls depth parent rest, preorder, List.map_append]

end

mutual

/-- The branches that are left are those that are visited. -/
theorem left_nestedCallsOf (parent : Option Text) (node : Node) :
    ((nestedCallsOf parent node).filterMap Call.left?).Perm
      (((nestedCallsOf parent node).filterMap Call.visited?).filter fun entry => entry.2.isBranch) := by
  cases node with
  | leaf key texts => exact .nil
  | branch key texts children =>
    have below := left_nestedCalls (some (join parent key)) children
    simp only [nestedCallsOf, List.filterMap_cons, Call.left?, Call.visited?, List.filterMap_append,
      List.filterMap_nil, List.append_nil]
    exact (List.perm_append_singleton _ _).trans (below.cons _)

theorem left_nestedCalls (parent : Option Text) (nodes : List Node) :
    ((nestedCalls parent nodes).filterMap Call.left?).Perm
      (((nestedCalls parent nodes).filterMap Call.visited?).filter fun entry => entry.2.isBranch) := by
  cases nodes with
  | nil => exact .nil
  | cons node rest =>
    simp only [nestedCalls, List.filterMap_append, List.filter_append]
    exact (left_nestedCallsOf parent node).append (left_nestedCalls parent rest)

end

mutual

/-- The calls for a node leave all branches that they enter, and none around them. -/
theorem Balanced.nestedCallsOf {inside : List (Text × Node)} {later : List Call}
    (parent : Option Text) (node : Node) (rest : Balanced inside later) :
    Balanced inside (Node.nestedCallsOf parent node ++ later) := by
  cases node with
  | leaf key texts => exact .leaf (by simp [isBranch, children?]) rest
  | branch key texts children =>
    rw [Node.nestedCallsOf, List.cons_append, List.append_assoc]
    exact .enter rfl (Balanced.nestedCalls (some (join parent key)) children (.leave rest))

theorem Balanced.nestedCalls {inside : List (Text × Node)} {later : List Call}
    (parent : Option Text) (nodes : List Node) (rest : Balanced inside later) :
    Balanced inside (Node.nestedCalls parent nodes ++ later) := by
  cases nodes with
  | nil => exact rest
  | cons node others =>
    rw [Node.nestedCalls, List.append_assoc]
    exact Balanced.nestedCallsOf parent node (Balanced.nestedCalls parent others rest)

end

/-- The walk of a tree, the visits of a traversal, the number of nodes and the canonical form all follow
the recursion. A traversal makes the calls of the recursion, so that each branch is left once, after what
is below it and before its next sibling. -/
theorem traversals_agree (tree : Tree) :
    tree.walk = ((preorder 0 none tree.roots).map fun visited => (visited.keyPath, visited.node)) ∧
      (traversal tree.roots).filterMap Call.visited? = tree.walk ∧
      tree.nodeCount = (preorder 0 none tree.roots).length ∧
      canonicalForm tree.roots =
        ((preorder 0 none tree.roots).flatMap fun visited =>
          canonicalLine visited.depth visited.node) ∧
      traversal tree.roots = nestedCalls none tree.roots ∧
      Balanced [] (traversal tree.roots) ∧
      ((traversal tree.roots).filterMap Call.left?).Perm
        (tree.walk.filter fun entry => entry.2.isBranch) := by
  have walked : tree.walk = _ := walk_eq_preorder tree.roots
  have called := traversal_eq_nestedCalls tree.roots
  have visits : (traversal tree.roots).filterMap Call.visited? = tree.walk := by
    rw [called, walked, visited_nestedCalls 0]
  refine ⟨walked, visits, ?_, ?_, called, ?_, ?_⟩
  · rw [Tree.nodeCount, walked, List.length_map]
  · rw [canonicalForm, walkDepths_eq_preorder, List.flatMap_map]
  · rw [called]
    simpa using Balanced.nestedCalls none tree.roots .done
  · rw [← visits, called]
    exact left_nestedCalls none tree.roots

end Phrasebook.Node
