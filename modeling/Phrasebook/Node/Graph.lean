import Phrasebook.Failure
import Phrasebook.Tree

/-!
# Graphs of nodes

A forest made piece by piece may use one node in several places. Such a graph lists its nodes in the
order in which they were made, children before their parents, and refers to them by number; something
else than a node can stand among the roots. A graph is a forest if no node is used twice, which a walk
finds out by the time it has seen one place more than there are nodes.
-/

namespace Phrasebook

/-- What stands at a place of a graph: a node by its number, or a value that is no node. -/
inductive GraphPlace where
  | node (number : Nat)
  | foreign (kindName : Text)
deriving DecidableEq, Repr

/-- A node of a graph, with its children by number. -/
structure GraphNode where
  key : Text
  texts : LocalTexts
  children : Option (List Nat)
deriving DecidableEq, Repr

/-- Nodes that may be used more than once. -/
structure NodeGraph where
  nodes : Array GraphNode
  /-- Children are made before their parents. -/
  descending : ∀ number (bound : number < nodes.size) child,
    child ∈ nodes[number].children.getD [] → child < number

namespace NodeGraph

/-- A graph without nodes. -/
def empty : NodeGraph := ⟨#[], by simp⟩

/-- The children that are nodes made before. A value that is no node fails, as does the number of a
node that was not made. -/
def checkChildren (graph : NodeGraph) (key : Text) :
    List GraphPlace → Except Failure { numbers : List Nat // ∀ n ∈ numbers, n < graph.nodes.size }
  | [] => .ok ⟨[], by simp⟩
  | .foreign kindName :: _ => .error (.childNotNode key kindName)
  | .node number :: rest =>
    if bound : number < graph.nodes.size then do
      let others ← graph.checkChildren key rest
      return ⟨number :: others.1, by
        intro n member
        cases member with
        | head => exact bound
        | tail _ member => exact others.2 n member⟩
    else .error (.childNotNode key "NoneType")

/-- Makes a node, and tells its number. -/
def add (graph : NodeGraph) (key : Text) (texts : LocalTexts)
    (children : Option (List GraphPlace)) : Except Failure (Nat × NodeGraph) := do
  let checked ← graph.checkChildren key (children.getD [])
  let node : GraphNode := ⟨key, texts, children.map fun _ => checked.1⟩
  return (graph.nodes.size, {
    nodes := graph.nodes.push node
    descending := by
      intro number bound child member
      by_cases old : number < graph.nodes.size
      · rw [Array.getElem_push_lt old] at member
        exact graph.descending number old child member
      · have last : number = graph.nodes.size := by
          have : (graph.nodes.push node).size = graph.nodes.size + 1 := Array.size_push ..
          omega
        subst last
        rw [Array.getElem_push_eq] at member
        cases children with
        | none => simp [node] at member
        | some _ =>
          simp only [node, Option.map_some, Option.getD_some] at member
          exact checked.2 child member })

/-- Adds a copy of a graph's node, with the copies made before as its children. -/
def copy (made : Array Node) (node : GraphNode) : Array Node :=
  made.push (match node.children with
    | none => .leaf node.key node.texts
    | some numbers => .branch node.key node.texts (numbers.filterMap (made[·]?)))

/-- The nodes at some places of a graph, with copies of what is below them. -/
def forest (graph : NodeGraph) (places : List GraphPlace) : List Node :=
  let made := graph.nodes.foldl copy #[]
  places.filterMap fun
    | .node number => made[number]?
    | .foreign _ => none

/-- How many nodes a walk has not visited. -/
def unvisited (graph : NodeGraph) (visited : List Nat) : Nat :=
  (List.range graph.nodes.size).countP fun number => !visited.contains number

theorem unvisited_cons_lt {graph : NodeGraph} {visited : List Nat} {number : Nat}
    (bound : number < graph.nodes.size) (fresh : visited.contains number = false) :
    graph.unvisited (number :: visited) < graph.unvisited visited := by
  rcases List.append_of_mem (List.mem_range.mpr bound) with ⟨before, after, split⟩
  have fewer (numbers : List Nat) :
      numbers.countP (fun other => !(number :: visited).contains other) ≤
        numbers.countP (fun other => !visited.contains other) := by
    apply List.countP_mono_left
    intro other _
    simp
  have := fewer before
  have := fewer after
  have counted : (number :: visited).contains number = true := by simp
  simp only [unvisited, split, List.countP_append, List.countP_cons, counted, fresh, Bool.not_true,
    Bool.not_false, Bool.false_eq_true, if_true, if_false]
  omega

/-- The nodes that a walk visits, last one first, after those visited already, and what it finds wrong: a
node that it has visited before, or a value that is no node. The walk ends there. -/
def inspect (graph : NodeGraph) (visited : List Nat) (places : List GraphPlace) :
    List Nat × Option Failure :=
  match places with
  | [] => (visited, none)
  | .foreign kindName :: _ => (visited, some (.rootNotNode kindName))
  | .node number :: rest =>
    if bound : number < graph.nodes.size then
      let node := graph.nodes[number]
      if seen : visited.contains number then
        (number :: visited, some (.problem (.sharedNode node.key)))
      else graph.inspect (number :: visited) ((node.children.getD []).map .node ++ rest)
    else graph.inspect visited rest
termination_by (graph.unvisited visited, places.length)
decreasing_by
  · exact .left _ _ (unvisited_cons_lt bound (by simpa using seen))
  · exact .right _ (Nat.lt_succ_self rest.length)

/-- Makes a tree of a graph from its roots. -/
def tree (graph : NodeGraph) (roots : List GraphPlace) (languages : List Text) (hash : Text)
    (warnings : List Warning) : Except Failure Tree :=
  match (graph.inspect [] roots).2 with
  | some failure => .error failure
  | none => .ok (Tree.make (graph.forest roots) languages hash warnings)

end NodeGraph

end Phrasebook
