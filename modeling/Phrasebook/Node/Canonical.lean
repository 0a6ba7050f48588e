import Phrasebook.Json.Writer
import Phrasebook.Node.Walk
import Phrasebook.Sha256
import Phrasebook.Text.Utf8

/-!
# Canonical form of forests

A forest is written as one line for each node in the order of visits. A line gives the depth, the key,
the texts in order and whether the node is a branch; depths and order fix the shape, so that the form
needs no nesting. The hash of a forest is that of its canonical form.
-/

namespace Phrasebook

/-- The hash of a text: that of its encoding. -/
def contentHash (text : Text) : Text := Sha256.hexDigest (Utf8.encode text)

namespace Node

/-- The texts of a node as a list of pairs. -/
def textPairs (node : Node) : Datum :=
  .list (node.texts.entries.map fun entry => .list [.text entry.1, .text entry.2])

/-- The line of a node at a depth. -/
def canonicalLine (depth : Nat) (node : Node) : Text :=
  Json.write .compact
    (.list [.int depth, .text node.key, node.textPairs, .bool node.isBranch]) ++ "\n"

/-- The canonical form of a forest. -/
def canonicalForm (roots : List Node) : Text :=
  (walkDepths roots).flatMap fun visited => canonicalLine visited.1 visited.2

/-- The hash of a forest. -/
def forestHash (roots : List Node) : Text := contentHash (canonicalForm roots)

end Node

end Phrasebook
