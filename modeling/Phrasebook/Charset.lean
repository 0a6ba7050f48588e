import Phrasebook.Event
import Phrasebook.File.Replacement
import Phrasebook.Language.Registry
import Phrasebook.Tree

/-!
# Character sets

The characters that the texts of a tree need: those of all texts but line breaks, some that are always
needed, and on demand those of numbers and of the names of languages.
-/

namespace Phrasebook

/-- What belongs to a character set besides the texts. -/
structure Charset where
  numeric : Bool := false
  /-- The languages whose names are needed. -/
  registry : Option Registry := none

namespace Charset

/-- The characters of numbers. -/
def numericCharacters : Text := "0123456789+-.,"

/-- The characters that are always needed. -/
def commonCharacters : Text := "()_"

/-- The characters of the texts of a tree, without line breaks. -/
def textCharacters (tree : Tree) : Text :=
  (tree.walk.flatMap fun visited => visited.2.texts.entries.flatMap Prod.snd).filter
    (· != .scalar '\n')

/-- All characters that are needed, in any order. -/
def needed (charset : Charset) (tree : Tree) : Text :=
  textCharacters tree ++ (if charset.numeric then numericCharacters else []) ++
    (charset.registry.map fun registry => registry.displayNames.flatten).getD [] ++
    commonCharacters

/-- Leaves one of neighbours that are the same. -/
def dropRepeats : Text → Text
  | [] => []
  | point :: rest =>
    match dropRepeats rest with
    | [] => [point]
    | next :: others => if point = next then next :: others else point :: next :: others

/-- The characters that are needed, each once, by their numbers. -/
def characters (charset : Charset) (tree : Tree) : Text :=
  dropRepeats ((charset.needed tree).mergeSort fun first second => first.value ≤ second.value)

/-- Writes the characters that a tree needs to a file. -/
def write (charset : Charset) (tree : Tree) (disk : Disk) (path : FilePath) :
    Reported Failure Unit × Disk :=
  let text := charset.characters tree
  let (written, disk) := disk.replace path text
  (do
    written
    Reported.report (.charsetWritten text.length path.display), disk)

end Charset

end Phrasebook
