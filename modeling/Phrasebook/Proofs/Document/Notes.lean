import Phrasebook.Proofs.Document.Recursion

/-!
# The notes on a forest

What is noted while a forest is read depends on the forest alone. The key of a node is noted if it is
discouraged, before what is below the node; when all that is below it has been read, the node is noted
as complete, after a warning if an earlier sibling has its key.
-/

namespace Phrasebook.Document

/-- The notes on the key of a node below a parent. -/
def keyNotes (parent : Option Text) (key : Text) : List Note :=
  if Key.isTitleCase key then [.warning (.titleCase key (KeyPath.join parent key))] else []

/-- The notes on a complete node below a parent, after siblings with some keys. -/
def completionNotes (parent : Option Text) (earlier : List Text) (key : Text) : List Note :=
  (if earlier.contains key then [.warning (.duplicate key (KeyPath.join parent key))] else []) ++
    [.node (KeyPath.join parent key)]

mutual

/-- The notes on a node and what is below it, until the node is complete. -/
def nodeNotes (parent : Option Text) : Node → List Note
  | .leaf key _ => keyNotes parent key
  | .branch key _ children =>
    keyNotes parent key ++ siblingNotes (some (KeyPath.join parent key)) [] children

/-- The notes on nodes and what is below them, after siblings with some keys. -/
def siblingNotes (parent : Option Text) (earlier : List Text) : List Node → List Note
  | [] => []
  | node :: rest =>
    nodeNotes parent node ++ completionNotes parent earlier node.key ++
      siblingNotes parent (node.key :: earlier) rest

end

/-- The notes on a forest. -/
def forestNotes (roots : List Node) : List Note := siblingNotes none [] roots

/-- The warnings about a forest. -/
def forestWarnings (roots : List Node) : List Warning :=
  (forestNotes roots).filterMap Note.warning?

/-- A complete node is put into its frame with the notes on its completion. -/
theorem register_eq {frame : Frame} {node : Node} {notes : List Note} :
    frame.register node notes =
      ({ frame with nodes := node :: frame.nodes },
        (completionNotes frame.parent (frame.nodes.map Node.key) node.key).reverse ++ notes) := by
  unfold Frame.register completionNotes
  split <;> rfl

end Phrasebook.Document
