import Phrasebook.Node.Canonical
import Phrasebook.Node.Equality
import Phrasebook.Warning

/-!
# Resource trees

A tree is a forest of nodes with the codes of its languages, a hash of where it comes from, and the
warnings met while it was read. A tree made without a hash has that of its forest.
-/

namespace Phrasebook

/-- A forest of nodes and what is known about it. -/
structure Tree where
  roots : List Node
  /-- The codes of the languages in order. -/
  languages : List Text
  /-- The hash of the document that was read, or of the forest. -/
  sourceHash : Text
  warnings : List Warning

namespace Tree

/-- Makes a tree; an empty hash stands for that of the forest. -/
def make (roots : List Node) (languages : List Text) (hash : Text) (warnings : List Warning) :
    Tree :=
  { roots, languages, warnings
    sourceHash := if hash.isEmpty then Node.forestHash roots else hash }

/-- The first root with a key. -/
def root? (tree : Tree) (key : Text) : Option Node := Node.withKey? tree.roots key

/-- The nodes with their key paths, in the order of visits. -/
def walk (tree : Tree) : List (Text × Node) := Node.walk tree.roots

/-- The number of nodes. -/
def nodeCount (tree : Tree) : Nat := tree.walk.length

/-- The node that a list of keys leads to, the first one with each key. -/
def nodeAt? (tree : Tree) : List Text → Option Node
  | [] => none
  | first :: rest =>
    rest.foldl (fun node key => node.bind (·.child? key)) (tree.root? first)

/-- Whether two trees have equal forests, and the same languages, hash and warnings. -/
def equal (first second : Tree) : Bool :=
  Node.equalLists first.roots second.roots && first.languages == second.languages &&
    first.sourceHash == second.sourceHash && first.warnings == second.warnings

end Tree

end Phrasebook
