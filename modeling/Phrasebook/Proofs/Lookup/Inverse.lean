import Phrasebook.Proofs.Document.Warnings
import Phrasebook.Proofs.Lookup.Addressing

/-!
# Look-up against walk

In a tree without periods in its keys, the look-up of the key path of a place leads back to the place
unless the place or one above it has an earlier sibling of its key. These siblings are what the warnings
about repeated keys tell of, so that without such warnings walk and look-up are inverse to each other.
-/

namespace Phrasebook

open Document

namespace Place

variable {nodes : List Node}

end Place

namespace Resolver

variable {registry : Registry} {resolver : Resolver}

/-- An object for a leaf with texts in the languages of the built-in registry. -/
def leafFields (key english : Text) : Fields :=
  [("key", .text key), ("ja", .text "はい"), ("en", .text english)]

/-- The texts of such a leaf. -/
def leafTexts (english : Text) : LocalTexts := .ofList [("ja", "はい"), ("en", english)]

/-- An object for a branch with one object below it. -/
def branchFields (key : Text) (below : Fields) : Fields :=
  [("key", .text key), ("strings", .list [.record below])]

end Resolver

end Phrasebook
