import Phrasebook.Key.Path
import Phrasebook.LocalTexts

/-!
# Resource nodes

A node has a key and texts. A leaf has no children; a branch has a list of them, which may be empty.
A branch with texts can be addressed like a leaf.
-/

namespace Phrasebook

/-- A node of a resource tree. -/
inductive Node where
  | leaf (key : Text) (texts : LocalTexts)
  | branch (key : Text) (texts : LocalTexts) (children : List Node)
deriving Repr

/-- The kinds of nodes. -/
inductive NodeKind where
  | leaf
  | branch
  | branchWithText
deriving DecidableEq, Repr

/-- The name of a kind. -/
def NodeKind.name : NodeKind → Text
  | .leaf => "leaf"
  | .branch => "branch"
  | .branchWithText => "branch_with_text"

namespace Node

/-- The key of a node. -/
def key : Node → Text
  | leaf key _ => key
  | branch key _ _ => key

/-- The texts of a node. -/
def texts : Node → LocalTexts
  | leaf _ texts => texts
  | branch _ texts _ => texts

/-- The children of a branch. -/
def children? : Node → Option (List Node)
  | leaf _ _ => none
  | branch _ _ children => some children

/-- The children of a node, none for a leaf. -/
def children (node : Node) : List Node := node.children?.getD []

/-- Whether a node is a branch. -/
def isBranch (node : Node) : Bool := node.children?.isSome

/-- Whether a node has a text in some language. -/
def hasText (node : Node) : Bool := !node.texts.isEmpty

/-- The kind of a node. -/
def kind : Node → NodeKind
  | leaf _ _ => .leaf
  | branch _ texts _ => if texts.isEmpty then .branch else .branchWithText

/-- The stored text of a node in a language. -/
def textFor (node : Node) (language : Text) : Option Text := node.texts.get? language

/-- The first of some nodes with a key. -/
def withKey? (nodes : List Node) (key : Text) : Option Node := nodes.find? (·.key = key)

/-- The first child with a key. -/
def child? (node : Node) (key : Text) : Option Node := withKey? node.children key

/-- The keys of the children in order. -/
def childKeys (node : Node) : List Text := node.children.map Node.key

/-! ### Size -/

mutual

/-- How many nodes there are in a node and below it. -/
def count : Node → Nat
  | leaf _ _ => 1
  | branch _ _ children => countAll children + 1

/-- How many nodes there are in a list of nodes and below them. -/
def countAll : List Node → Nat
  | [] => 0
  | node :: rest => count node + countAll rest

end

theorem count_pos (node : Node) : 0 < count node := by
  cases node <;> simp [count]

theorem count_eq (node : Node) : count node = countAll node.children + 1 := by
  cases node <;> simp [count, countAll, children, children?]

theorem countAll_append (first second : List Node) :
    countAll (first ++ second) = countAll first + countAll second := by
  induction first with
  | nil => simp [countAll]
  | cons node rest ih => simp [countAll, ih, Nat.add_assoc]

theorem countAll_reverse (nodes : List Node) : countAll nodes.reverse = countAll nodes := by
  induction nodes with
  | nil => rfl
  | cons node rest ih =>
    rw [List.reverse_cons, countAll_append, ih]
    simp [countAll, Nat.add_comm]

end Node

end Phrasebook
