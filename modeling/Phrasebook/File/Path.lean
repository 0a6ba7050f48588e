import Phrasebook.Text.Basic

/-!
# File paths

A path is a root and the names below it. Reading a path drops empty names and single periods, so
different spellings of a path become one; two periods are kept, because what they stand for depends
on the directory before them.
-/

namespace Phrasebook

/-- Where a path starts: at the working directory, or at a root written with one or two slashes. -/
inductive PathRoot where
  | working
  | single
  | double
deriving DecidableEq, Repr

/-- A path of a file or a directory. -/
structure FilePath where
  root : PathRoot
  names : List Text
deriving DecidableEq, Repr

namespace FilePath

/-- The path of the working directory. -/
def here : FilePath := ⟨.working, []⟩

/-- The root that a text starts with. Three and more slashes are as good as one. -/
def rootOf : Text → PathRoot
  | .scalar '/' :: .scalar '/' :: .scalar '/' :: _ => .single
  | .scalar '/' :: .scalar '/' :: _ => .double
  | .scalar '/' :: _ => .single
  | _ => .working

/-- Reads a path. -/
def ofText (text : Text) : FilePath :=
  { root := rootOf text
    names := (text.splitOn '/').filter fun name => !name.isEmpty && name ≠ "." }

/-- How a root is written. -/
def rootText : PathRoot → Text
  | .working => []
  | .single => "/"
  | .double => "//"

/-- Writes a path; the working directory is a period. -/
def display (path : FilePath) : Text :=
  if path.root = .working ∧ path.names = [] then "."
  else rootText path.root ++ Text.joinWith "/" path.names

/-- Whether a path starts at a root. -/
def isAbsolute (path : FilePath) : Bool := path.root ≠ .working

/-- A path as seen from a directory. -/
def inside (base path : FilePath) : FilePath :=
  if path.isAbsolute then path else ⟨base.root, base.names ++ path.names⟩

/-- The last name of a path, empty if there is none. -/
def name (path : FilePath) : Text := path.names.getLastD []

/-- The directory that holds a path. -/
def parent (path : FilePath) : FilePath := ⟨path.root, path.names.dropLast⟩

/-- The path of a name in a directory. -/
def child (path : FilePath) (name : Text) : FilePath := ⟨path.root, path.names ++ [name]⟩

/-- The name that stands for the directory above. -/
def up : Text := ".."

end FilePath

end Phrasebook
