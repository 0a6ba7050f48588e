import Phrasebook.Event
import Phrasebook.File.Replacement
import Phrasebook.KeyModule.Comment
import Phrasebook.KeyModule.Member
import Phrasebook.Tree

/-!
# Writing key modules

A key module is a header with the hash of the tree, the classes of the namespace, and the class for all
keys with its members. Its lines are indented by a number of blanks for each level, and that number has to
be one that a text can be long. The memory for the lines is not limited here; a host would run out of it
long before the blanks of a deeper line were too many.
-/

namespace Phrasebook.KeyModule

/-- What a line with a hash starts with. -/
def hashMark : Text := "# String resource hash: "

/-- The lines before the classes. -/
def headerLines (hash : Text) : List Text :=
  ["# Auto-generated by i18ntree key class generator.", "# Any changes will be lost.",
    hashMark ++ hash, "# ruff: noqa",
    "\"\"\"Key paths for LocalizationContext.for_key().\"\"\"", [], []]

/-- The line that opens a class at a depth, for each name in turn. -/
def namespaceLines (width : Nat) : Nat → List Text → List Text
  | _, [] => []
  | depth, name :: rest =>
    (indentation width depth ++ classLine name) :: namespaceLines width (depth + 1) rest

/-- The description of the class for all keys. -/
def rootDescription : Text :=
  "\"\"\"Members in this class can be supplied to LocalizationContext.for_key().\"\"\""

/-- The lines of a module up to the description of the class for all keys. -/
def openingLines (options : Options) (hash : Text) : List Text :=
  headerLines hash ++ namespaceLines options.indentWidth 0 (options.namespaces ++ [options.rootClass])
    ++ [indentation options.indentWidth (options.namespaces.length + 1) ++ rootDescription]

/-- The lines of a module with the members of the class for all keys. -/
def moduleLines (options : Options) (hash : Text) (members : List Member) : List Text :=
  openingLines options hash ++
    spacedLines options.indentWidth (options.namespaces.length + 1) members

/-- The writer for a tree, in the class for all keys. -/
def Options.writer (options : Options) : Writer :=
  { width := options.indentWidth, depth := options.namespaces.length + 1 }

/-- The first count of blanks that is no index: two to the power of 63. -/
def indexLimit : Nat := 0x8000000000000000

/-- Writes the key module of a tree. -/
def emit (options : Options) (tree : Tree) : Reported Failure Text := do
  if indexLimit ≤ options.indentWidth then throw .countTooLarge
  let writer ← Reported.ofExcept Failure.problem
    ((Node.traversal tree.roots).foldlM Writer.step options.writer)
  Reported.report (.moduleEmitted tree.nodeCount)
  return Text.joinWith "\n" (openingLines options tree.sourceHash ++ writer.written.reverse) ++ "\n"

/-- Writes the key module of a tree to a file. -/
def write (options : Options) (tree : Tree) (disk : Disk) (path : FilePath) :
    Reported Failure Unit × Disk :=
  let emitted := emit options tree
  match emitted.result with
  | .error failure => (⟨emitted.events, .error failure⟩, disk)
  | .ok text =>
    let (written, disk) := disk.replace path text
    (do
      let _ ← emitted
      written
      Reported.report (.moduleWritten path.display), disk)

end Phrasebook.KeyModule
