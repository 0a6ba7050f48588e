import Phrasebook.Text.Basic

/-!
# Key paths

A key path names a node by the keys from a root down to it, with periods between them.
-/

namespace Phrasebook.KeyPath

/-- The path of a child under a parent path. No parent and an empty one are the same. -/
def join (parent : Option Text) (key : Text) : Text :=
  match parent with
  | none | some [] => key
  | some path => path ++ .scalar '.' :: key

/-- The keys that a path is cut into. -/
def segments (path : Text) : List Text := path.splitOn '.'

end Phrasebook.KeyPath
