import Phrasebook.File.Path
import Phrasebook.Text.Quoted
import Phrasebook.Text.Utf8

/-!
# Disks

A disk holds files and directories by their places. A path leads to a place name by name, each step
through a directory, and the steps may fail. Besides, a disk may refuse any stage of a replacement
for reasons of its own, such as missing rights or space. Paths are taken as they are spelled: surrogates
that stand for the bytes of a character are not that character.
-/

namespace Phrasebook

open Utf8 (Bytes)

/-- The wording for surrogates that cannot be encoded, the first of some in a row, with their place in a
text. -/
def Utf8.unencodableMessage (first : CodePoint) (position count : Nat) : Text :=
  let place : Text :=
    if count = 1 then
      "character " ++ Quoted.encode [first] ++ " in position " ++ Numeral.natural position
    else
      "characters in position " ++ Numeral.natural position ++ "-" ++
        Numeral.natural (position + count - 1)
  "'utf-8' codec can't encode " ++ place ++ ": surrogates not allowed"

/-- Why a file system refuses an operation. -/
inductive FileFault where
  | missing
  | busy
  | exists
  | notADirectory
  | isADirectory
  | nameTooLong
  /-- A path holds the character that ends texts in file systems. -/
  | embeddedNul
  /-- A path holds a surrogate that stands for no byte. -/
  | unencodable
  /-- A reason of its own, with its number. -/
  | refused (number : Nat) (reason : Text)
deriving DecidableEq, Repr

namespace FileFault

/-- The number of a fault. -/
def number : FileFault → Nat
  | missing => 2
  | busy => 16
  | .exists => 17
  | notADirectory => 20
  | isADirectory => 21
  | nameTooLong => 36
  | embeddedNul | unencodable => 22
  | refused number _ => number

/-- The wording of a fault. -/
def reason : FileFault → Text
  | missing => "No such file or directory"
  | busy => "Device or resource busy"
  | .exists => "File exists"
  | notADirectory => "Not a directory"
  | isADirectory => "Is a directory"
  | nameTooLong => "File name too long"
  | embeddedNul => "embedded null byte"
  | unencodable => "surrogates not allowed"
  | refused _ reason => reason

/-- Whether a fault is that of a path which no file system takes. -/
def isOfPath : FileFault → Bool
  | embeddedNul | unencodable => true
  | _ => false

/-- The paths that a fault concerns, at the end of its wording. -/
def concerning : List FilePath → Text
  | [] => []
  | paths => ": " ++ Text.joinWith " -> " (paths.map fun path => Quoted.encode path.display)

/-- The wording for surrogates in a path that stand for no byte. -/
def describeSurrogates (path : Text) : Text :=
  let before := path.takeWhile fun point => !point.hasNoByte
  let row := (path.drop before.length).takeWhile CodePoint.isSurrogate
  Utf8.unencodableMessage (row.headD '\x00') before.length row.length

/-- The wording of a fault with the paths it concerns. -/
def describe (fault : FileFault) (paths : List FilePath) : Text :=
  match fault with
  | embeddedNul => embeddedNul.reason
  | unencodable => describeSurrogates ((paths.head?.map FilePath.display).getD [])
  | _ => "[Errno " ++ Numeral.natural fault.number ++ "] " ++ fault.reason ++ concerning paths

end FileFault

/-- What stands at a place of a disk. -/
inductive Entry where
  | file (content : Bytes)
  | directory
deriving DecidableEq, Repr

/-- The stages of replacing a file. -/
inductive Stage where
  | directory
  | temporary
  | writing
  | replacing
deriving DecidableEq, Repr

/-- Files and directories. -/
structure Disk where
  /-- What stands at which place. A place is a path that goes up at its start only. -/
  entries : List (FilePath × Entry) := []
  /-- The reason for which a stage of replacing a file is refused. -/
  refusal : Stage → Option FileFault := fun _ => none

namespace Disk

/-- The greatest number of bytes in a name. -/
def nameLimit : Nat := 255

/-- The greatest number of bytes in a path. -/
def pathLimit : Nat := 4095

/-- What stands at a place. A root, the working directory and those above it are directories. -/
def entry? (disk : Disk) (place : FilePath) : Option Entry :=
  if place.names.all (· = FilePath.up) then some .directory else disk.entries.lookup place

/-- Puts an entry at a place, in front of what may have stood there. -/
def put (disk : Disk) (place : FilePath) (entry : Entry) : Disk :=
  { disk with
    entries := (place, entry) :: disk.entries.filter fun other => other.1 ≠ place }

/-- Takes away what stands at a place. -/
def erase (disk : Disk) (place : FilePath) : Disk :=
  { disk with entries := disk.entries.filter fun other => other.1 ≠ place }

/-- The place one step from a directory. -/
def step (place : FilePath) (name : Text) : FilePath :=
  if name = FilePath.up then
    match place.names.getLast? with
    | none => if place.isAbsolute then place else place.child name
    | some last => if last = FilePath.up then place.child name else place.parent
  else place.child name

/-- The bytes that a text has in a path. A surrogate in it stands for a byte that is no UTF-8. -/
def pathBytes (text : Text) : Bytes :=
  text.flatMap fun
    | .scalar char => Utf8.encodeChar char
    | .surrogate offset => [UInt8.ofNat (offset.val - 0x400)]

/-- Follows names from a directory to a place. All names but the last have to lead to directories. -/
def follow (disk : Disk) (place : FilePath) : List Text → Except FileFault FilePath
  | [] => .ok place
  | [name] =>
    if nameLimit < (pathBytes name).length then .error .nameTooLong else .ok (step place name)
  | name :: rest =>
    let next := step place name
    if nameLimit < (pathBytes name).length then .error .nameTooLong
    else
      match disk.entry? next with
      | none => .error .missing
      | some (.file _) => .error .notADirectory
      | some .directory => follow disk next rest

/-- The places that names lead through from a directory, one after each name. -/
def along (place : FilePath) : List Text → List FilePath
  | [] => []
  | name :: rest => step place name :: along (step place name) rest

/-- The directory that a path starts from. -/
def start (path : FilePath) : FilePath := ⟨if path.isAbsolute then .single else .working, []⟩

/-- What keeps every file system from taking a path. -/
def pathFault? (path : FilePath) : Option FileFault :=
  if path.display.any CodePoint.hasNoByte then some .unencodable
  else if path.display.contains (.scalar '\x00') then some .embeddedNul
  else none

/-- The place that a path leads to. -/
def place (disk : Disk) (path : FilePath) : Except FileFault FilePath :=
  match pathFault? path with
  | some fault => .error fault
  | none =>
    if pathLimit < (pathBytes path.display).length then .error .nameTooLong
    else disk.follow (start path) path.names

/-- Reads the bytes of a file. -/
def read (disk : Disk) (path : FilePath) : Except FileFault Bytes := do
  match disk.entry? (← disk.place path) with
  | none => throw .missing
  | some .directory => throw .isADirectory
  | some (.file content) => return content

/-- Whether a path leads to a file. Only a name that is too long is a fault. -/
def isFile (disk : Disk) (path : FilePath) : Except FileFault Bool :=
  match disk.read path with
  | .ok _ => .ok true
  | .error .nameTooLong => .error .nameTooLong
  | .error _ => .ok false

/-- Whether a path leads to a directory. -/
def isDirectory (disk : Disk) (path : FilePath) : Bool :=
  match disk.place path with
  | .ok place => disk.entry? place = some .directory
  | .error _ => false

/-- Makes one directory. -/
def makeDirectory (disk : Disk) (path : FilePath) : Except FileFault Disk := do
  let place ← disk.place path
  match disk.entry? place with
  | some _ => throw .exists
  | none =>
    match disk.refusal .directory with
    | some fault => throw fault
    | none => return disk.put place .directory

/-- Makes a directory and those above it that are missing. A fault concerns the path it comes with;
the directories made before it stay. -/
def makeDirectories (disk : Disk) (root : PathRoot) (namesBackwards : List Text) :
    Option (FileFault × FilePath) × Disk :=
  let path : FilePath := ⟨root, namesBackwards.reverse⟩
  let settle (disk : Disk) : Except FileFault Disk → Option (FileFault × FilePath) × Disk
    | .ok made => (none, made)
    | .error fault => (if disk.isDirectory path then none else some (fault, path), disk)
  match disk.makeDirectory path, namesBackwards with
  | .error .missing, _ :: above =>
    match disk.makeDirectories root above with
    | (none, disk) => settle disk (disk.makeDirectory path)
    | failed => failed
  | outcome, _ => settle disk outcome

/-- The disk of some files, with the directories that hold them. -/
def ofFiles (files : List (FilePath × Bytes)) : Disk :=
  files.foldl (fun disk file =>
    ((disk.makeDirectories file.1.root file.1.parent.names.reverse).2).put file.1 (.file file.2)) {}

/-- The files of a disk. -/
def files (disk : Disk) : List (FilePath × Bytes) :=
  disk.entries.filterMap fun
    | (place, .file content) => some (place, content)
    | (_, .directory) => none

/-- What stands on a disk and did not stand on an earlier one, in the order in which it was put there. -/
def changesFrom (disk earlier : Disk) : List (FilePath × Entry) :=
  disk.entries.reverse.filter fun placed => earlier.entries.lookup placed.1 ≠ some placed.2

end Disk

end Phrasebook
