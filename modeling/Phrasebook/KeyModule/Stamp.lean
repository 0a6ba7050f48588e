import Phrasebook.File.TextFile
import Phrasebook.KeyModule.Emission
import Phrasebook.Unicode.Blank

/-!
# Stamps of key modules

The hash in a key module tells which tree it was made from. It is looked for in the first lines of the
file, and the file is read block by block, no further than that needs. Bytes that are not UTF-8 are a
fault only in a block that is read.
-/

namespace Phrasebook.KeyModule

open Utf8 (Bytes)

/-- How many lines are looked at. -/
def stampLines : Nat := 10

/-- How many bytes are read at a time. -/
def blockSize : Nat := 8192

/-- The hash that a line gives; an empty one is as good as none. -/
def stampOf? (line : Text) : Option (Option Text) :=
  (Text.dropStart? hashMark line).map fun hash =>
    match Text.trim CodePoint.isBlank hash with
    | [] => none
    | stamp => some stamp

/-- What the lines of a file tell about its stamp, if they are enough to tell. -/
def verdict? (left : Nat) : List Text → Option (Option Text)
  | [] => none
  | line :: rest =>
    match left with
    | 0 => some none
    | left + 1 =>
      match stampOf? line with
      | some stamp => some stamp
      | none => verdict? left rest

/-- The text of bytes up to a sequence that is not complete, and that sequence. -/
def decodeSome (bytes : Bytes) : Except Utf8.Fault (Text × Bytes) := do
  let state ← bytes.foldlM Utf8.State.step {}
  return (state.read.reverse, if state.open?.isSome then bytes.drop state.start else [])

/-- The complete lines of the text of a file that has been read so far. A carriage return at its end
waits for what follows. -/
def completeLines (text : Text) : List Text :=
  let settled := if text.getLast? = some (.scalar '\r') then text.dropLast else text
  ((TextFile.unifyBreaks settled).splitOn '\n').dropLast

/-- The lines of the whole text of a file. -/
def allLines (text : Text) : List Text :=
  let lines := (TextFile.unifyBreaks text).splitOn '\n'
  if lines.getLast? = some [] then lines.dropLast else lines

/-- The blocks of a file, a given number of them at most. -/
def blocksOf : Nat → Bytes → List Bytes
  | 0, _ => []
  | count + 1, bytes =>
    if bytes.isEmpty then [] else bytes.take blockSize :: blocksOf count (bytes.drop blockSize)

/-- Looks for the stamp in blocks, after the text and the open sequence of the blocks before. -/
def searchBlocks (text : Text) (pending : Bytes) : List Bytes → Except Utf8.Fault (Option Text)
  | [] => do
    let rest ← Utf8.decode pending
    return (verdict? stampLines (allLines (text ++ rest))).getD none
  | block :: blocks => do
    let (piece, pending) ← decodeSome (pending ++ block)
    let text := text ++ piece
    match verdict? stampLines (completeLines text) with
    | some stamp => return stamp
    | none => searchBlocks text pending blocks

/-- The stamp in the bytes of a file. -/
def stamp (content : Bytes) : Except Utf8.Fault (Option Text) :=
  searchBlocks [] [] (blocksOf (content.length / blockSize + 1) content)

/-- The stamp of a file, none if there is no such file. -/
def readStamp (disk : Disk) (path : FilePath) : Except Failure (Option Text) := do
  if ← (disk.isFile path).mapError (Failure.atPath path) then
    let content ← (disk.read path).mapError (Failure.atPath path)
    (stamp content).mapError .undecodable
  else return none

/-- Whether a file was not made from a tree. -/
def isStale (disk : Disk) (path : FilePath) (tree : Tree) : Except Failure Bool := do
  return (← readStamp disk path) != some tree.sourceHash

end Phrasebook.KeyModule
