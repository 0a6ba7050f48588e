import Phrasebook.Key.Identifier
import Phrasebook.KeyModule.Comment
import Phrasebook.KeyModule.Options
import Phrasebook.Node.Walk

/-!
# The writer of key modules

A writer takes the calls of a traversal and writes the members of the class for all keys, line by line. It
keeps the depth of the class body that it is in, and for that body and those around it which names are
taken and whether there is something in it already. A node with a text of its own and a leaf become a
constant, a branch becomes a class that is closed when the branch is left. A blank line stands before what
is not the first in its body, and a class without members has a line that says so.
-/

namespace Phrasebook.KeyModule

/-! ### Names -/

/-- The name that is made from the key of the node at a key path. -/
def nameFor (make : Text → Option Text) (key keyPath : Text) : Except Problem Text :=
  match if Key.isValid key then make key else none with
  | some name => .ok name
  | none => .error (.invalidIdentifier key keyPath)

/-- Takes a name in a class where some are taken. -/
def claim (taken : List Text) (name keyPath : Text) : Except Problem Unit :=
  if taken.contains name then .error (.duplicateIdentifier name keyPath) else .ok ()

/-! ### Lines -/

/-- The blanks at the start of a line at a depth of classes. -/
def indentation (width depth : Nat) : Text := List.replicate (width * depth) (.scalar ' ')

/-- The comment line for a text. -/
def commentLine (code text : Text) : Text := "#: " ++ code ++ ": " ++ commentText text

/-- The line that opens a class. -/
def classLine (name : Text) : Text := "class " ++ name ++ ":"

/-- The line of a constant. -/
def constantLine (name keyPath : Text) : Text := name ++ " = \"" ++ keyPath ++ "\""

/-! ### Class bodies -/

/-- The body of a class that is not closed. -/
structure Scope where
  /-- The names that are taken in it. -/
  names : List Text := []
  /-- Whether there is something in it. -/
  hasContent : Bool := false

/-- The body of the class for all keys, in which its description stands. -/
def Scope.root : Scope := { hasContent := true }

/-- A name is taken in a body. -/
def Scope.take (scope : Scope) (name : Text) : Scope := ⟨name :: scope.names, true⟩

/-- What a writer has written, and where it stands. -/
structure Writer where
  /-- The number of blanks for a level. -/
  width : Nat
  depth : Nat
  scope : Scope := .root
  /-- The bodies around that, the innermost one first. -/
  around : List Scope := []
  /-- The lines, the last one first. -/
  written : List Text := []

namespace Writer

/-- Writes a line at the depth of the body. -/
def put (writer : Writer) (line : Text) : Writer :=
  { writer with written := (indentation writer.width writer.depth ++ line) :: writer.written }

/-- A name is taken in the body. A blank line stands before what has the name unless it comes first. -/
def take (writer : Writer) (name : Text) : Writer :=
  { writer with
    scope := writer.scope.take name
    written := if writer.scope.hasContent then [] :: writer.written else writer.written }

/-- Takes a name in the body unless it is taken. -/
def claim (writer : Writer) (name keyPath : Text) : Except Problem Writer := do
  KeyModule.claim writer.scope.names name keyPath
  return writer.take name

/-- Writes the constant for a node. -/
def constant (writer : Writer) (keyPath key : Text) (texts : LocalTexts) : Except Problem Writer := do
  let name ← nameFor Key.constantName? key keyPath
  let writer ← writer.claim name keyPath
  return (texts.entries.map (fun entry => commentLine entry.1 entry.2) ++
    [constantLine name keyPath]).foldl put writer

/-- Goes into the body of a class whose name is taken. -/
def enter (writer : Writer) (name : Text) : Writer :=
  { writer.put (classLine name) with
    depth := writer.depth + 1
    scope := {}
    around := writer.scope :: writer.around }

/-- Opens the class for a branch. -/
def openClass (writer : Writer) (keyPath key : Text) : Except Problem Writer := do
  let name ← nameFor Key.className? key keyPath
  if nestingLimit < writer.depth + 1 then throw (.nestingTooDeep keyPath nestingLimit)
  let writer ← writer.claim name keyPath
  return writer.enter name

/-- Closes the class of a branch that is left. -/
def closeClass (writer : Writer) : Writer :=
  let writer := if writer.scope.names.isEmpty then writer.put "pass" else writer
  { writer with
    depth := writer.depth - 1
    scope := writer.around.headD {}
    around := writer.around.tail }

/-- Takes a call of a traversal. -/
def step (writer : Writer) : Node.Call → Except Problem Writer
  | .visit keyPath (.leaf key texts) => writer.constant keyPath key texts
  | .visit keyPath (.branch key texts _) => do
    let writer ← if texts.isEmpty then pure writer else writer.constant keyPath key texts
    writer.openClass keyPath key
  | .leave _ _ => return writer.closeClass

end Writer

end Phrasebook.KeyModule
