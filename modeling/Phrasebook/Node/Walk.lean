import Phrasebook.Node.Basic

/-!
# Walking forests

The order in which the nodes of a forest are visited: a node before its children, siblings in order.
The nodes that are still to be visited stand in a list, so the depth of a forest costs no stack. A
traversal for a visitor also marks where a branch is left, after the last node below it.
-/

namespace Phrasebook.Node

/-- A node that waits to be visited, with what its place in the forest gives it. -/
abbrev Pending (α : Type) := List (α × Node)

/-- How many nodes wait, those below them included. -/
def Pending.weight {α : Type} (pending : Pending α) : Nat := countAll (pending.map Prod.snd)

theorem Pending.weight_cons {α : Type} (place : α) (node : Node) (pending : Pending α) :
    Pending.weight ((place, node) :: pending) = count node + Pending.weight pending := by
  simp [Pending.weight, countAll]

theorem Pending.weight_map_append {α : Type} (place : α) (nodes : List Node)
    (pending : Pending α) :
    Pending.weight (nodes.map (place, ·) ++ pending) =
      countAll nodes + Pending.weight pending := by
  simp [Pending.weight, countAll_append, Function.comp_def]

/-- Visits waiting nodes. A place is made for the children of a node from the place of the node. -/
def visit {α β : Type} (descend : α → Node → α) (answer : α → Node → β) (pending : Pending α) :
    List β :=
  match pending with
  | [] => []
  | (place, node) :: rest =>
    answer place node ::
      visit descend answer (node.children.map (descend place node, ·) ++ rest)
termination_by pending.weight
decreasing_by
  rw [Pending.weight_map_append, Pending.weight_cons, count_eq node]
  omega

/-- The nodes of a forest with their key paths, in the order of visits. -/
def walk (roots : List Node) : List (Text × Node) :=
  visit (fun parent node => some (KeyPath.join parent node.key))
    (fun parent node => (KeyPath.join parent node.key, node)) (roots.map (none, ·))

/-- The nodes of a forest with their depths, in the order of visits. -/
def walkDepths (roots : List Node) : List (Nat × Node) :=
  visit (fun depth _ => depth + 1) Prod.mk (roots.map (0, ·))

/-- A call to a visitor. -/
inductive Call where
  /-- A node is visited. -/
  | visit (keyPath : Text) (node : Node)
  /-- The last node below a branch has been visited. -/
  | leave (keyPath : Text) (node : Node)

/-- A task of a traversal: to visit a node at a key path, or to leave a branch. -/
inductive Task where
  | enter (keyPath : Text) (node : Node)
  | exit (keyPath : Text) (node : Node)

/-- How much work some tasks are. -/
def Task.weight : List Task → Nat
  | [] => 0
  | .enter _ node :: rest => 2 * count node + weight rest
  | .exit _ _ :: rest => 1 + weight rest

/-- The tasks to visit the children of the branch at a key path. -/
def Task.enterAll (path : Text) (children : List Node) : List Task :=
  children.map fun child => .enter (KeyPath.join (some path) child.key) child

theorem Task.weight_enterAll_append (path : Text) (children : List Node) (tasks : List Task) :
    Task.weight (Task.enterAll path children ++ tasks) =
      2 * countAll children + Task.weight tasks := by
  induction children with
  | nil => simp [countAll, enterAll]
  | cons node rest ih =>
    simp only [enterAll, List.map_cons, List.cons_append, Task.weight, countAll] at ih ⊢
    omega

/-- The calls that carry out some tasks. -/
def calls (tasks : List Task) : List Call :=
  match tasks with
  | [] => []
  | .exit path node :: rest => .leave path node :: calls rest
  | .enter path node :: rest =>
    .visit path node ::
      match node with
      | leaf _ _ => calls rest
      | branch _ _ children =>
        calls (Task.enterAll path children ++ .exit path node :: rest)
termination_by Task.weight tasks
decreasing_by
  · simp only [Task.weight]
    omega
  · simp only [Task.weight, count]
    omega
  · rw [Task.weight_enterAll_append]
    simp only [Task.weight, count]
    omega

/-- The calls to a visitor that traverses a forest. -/
def traversal (roots : List Node) : List Call :=
  calls (roots.map fun node => .enter node.key node)

end Phrasebook.Node
