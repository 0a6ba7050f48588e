import Phrasebook.Event
import Phrasebook.Failure

/-!
# Replacing files

A file is written to a temporary file beside it, which then takes its place. If any stage fails the
temporary file is taken away, and what stood at the path before still stands there.
-/

namespace Phrasebook.Disk

open Utf8 (Bytes)

/-- A name for a temporary file: that of the file with a number. -/
def temporaryName (name : Text) (number : Nat) : Text :=
  "." ++ name ++ "." ++ Numeral.padded 10 8 number ++ ".tmp"

/-- The first temporary path beside a file whose place is free. -/
def temporaryPath (disk : Disk) (path : FilePath) : FilePath :=
  let candidates := (List.range (disk.entries.length + 1)).map fun number =>
    path.parent.child (temporaryName path.name number)
  let isFree (candidate : FilePath) : Bool :=
    match disk.place candidate with
    | .ok place => (disk.entry? place).isNone
    | .error _ => true
  (candidates.find? isFree).getD path.parent

/-- The bytes of a text that is to be written. -/
def encoded (text : Text) : Except Failure Bytes :=
  match Utf8.firstSurrogate? text with
  | none => .ok (Utf8.encode text)
  | some position =>
    let row := (text.drop position).takeWhile CodePoint.isSurrogate
    .error (.unencodable (row.headD '\x00') position row.length)

/-- Makes an empty temporary file, and tells its place. -/
def makeTemporary (disk : Disk) (temporary : FilePath) : Except FileFault (FilePath × Disk) := do
  let place ← disk.place temporary
  match disk.refusal .temporary with
  | some fault => throw fault
  | none => return (place, disk.put place (.file []))

/-- Why a temporary file cannot take the place of a path. -/
def replacementFault? (disk : Disk) (path : FilePath) : Option FileFault :=
  if path.name.isEmpty ∨ path.name = FilePath.up then some .busy
  else
    match disk.place path with
    | .error fault => some fault
    | .ok place =>
      if disk.entry? place = some .directory then some .isADirectory
      else disk.refusal .replacing

/-- Writes a text into a temporary file and lets it take the place of a path. Everything here can
fail before the path is touched. -/
def moveInto (disk : Disk) (temporary path : FilePath) (text : Text) : Except Failure Disk := do
  let content ← encoded text
  match disk.refusal .writing with
  | some fault => throw (.file fault [])
  | none =>
    match disk.replacementFault? path with
    | some fault => throw (.temporaryFile fault [temporary, path])
    | none =>
      let place ← (disk.place path).mapError (Failure.atPath path)
      return disk.put place (.file content)

/-- Writes a text to a file. The directory of the file is made if it is missing. -/
def replace (disk : Disk) (path : FilePath) (text : Text) : Reported Failure Unit × Disk :=
  match disk.makeDirectories path.parent.root path.parent.names.reverse with
  | (some (fault, directory), disk) => (throw (.file fault [directory]), disk)
  | (none, disk) =>
    let temporary := disk.temporaryPath path
    match disk.makeTemporary temporary with
    | .error fault => (throw (.temporaryFile fault [temporary]), disk)
    | .ok (place, opened) =>
      match opened.moveInto temporary path text with
      | .error failure => (throw failure, opened.erase place)
      | .ok written =>
        (Reported.report (.fileWritten text.length path.display), written.erase place)

end Phrasebook.Disk
