import Phrasebook.CommandLine.Run
import Phrasebook.CommandLine.Usage
import Phrasebook.KnownLocales

/-!
# The program

The outer layer of the program. What stands at the paths of an invocation is gathered from the file
system into a disk, the invocation is carried out there, and what has changed is put back. All else is
decided by the modules below this one. The streams are written after the files are in place, and a stream
that fails ends the program with the code for faults.
-/

namespace Phrasebook.CommandLine

/-- The host that the program is run on. -/
local instance programHost : Host := .known

/-- The name of a place in the file system. -/
def nameOf (place : FilePath) : String := place.display.toString

/-- What stands at a place of the file system. -/
def entryAt (place : FilePath) : IO (Option Entry) := do
  match ← (IO.FS.readBinFile (nameOf place)).toBaseIO with
  | .ok content => return some (.file content.toList)
  | .error (.inappropriateType none _ _) => return some .directory
  | .error (.noFileOrDirectory _ _ _) => return none
  | .error (.inappropriateType _ _ _) => return none
  | .error (.invalidArgument _ _ _) => return none
  | .error failure => throw failure

/-- Gathers what stands at the places that some paths lead through. -/
def gather (disk : Disk) (paths : List FilePath) : IO Disk :=
  (paths.flatMap fun path => Disk.along (Disk.start path) path.names).foldlM (fun disk place => do
    match ← entryAt place with
    | some entry => return disk.put place entry
    | none => return disk) disk

/-- Gathers the disk that an invocation is carried out on. The settings tell of further paths. -/
def Invocation.gather (invocation : Invocation) : IO Disk := do
  let disk ← CommandLine.gather {} invocation.settings.toList
  match (settingsOf disk invocation).result with
  | .error _ => return disk
  | .ok settings => CommandLine.gather disk (invocation.paths settings)

/-- Puts an entry at a place of the file system. A file takes its place after it is complete. -/
def putBack (place : FilePath) : Entry → IO Unit
  | .directory => IO.FS.createDirAll (nameOf place)
  | .file content => do
    let temporary := nameOf (place.parent.child (Disk.temporaryName place.name 0))
    IO.FS.writeBinFile temporary (ByteArray.mk content.toArray)
    IO.FS.rename temporary (nameOf place)

/-- Reports an outcome on the streams of the program, and answers with the exit code. -/
def Outcome.report (outcome : Outcome) : IO UInt32 := do
  let output ← IO.getStdout
  let messages ← IO.getStderr
  match outcome with
  | .exited code answer lines => do
    messages.putStr lines.toString
    output.putStr answer.toString
    return code.toUInt32
  | .stopped .help => do
    output.putStr (linesText usageLines).toString
    return 0
  | .stopped (.fault name fault) => do
    messages.putStrLn (name ++ ": error: " ++ fault.message).toString
    return 2
  | .failed failure => do
    messages.putStrLn (faultLine failure.message).toString
    return 1

/-- Carries out an invocation on the file system. -/
def Invocation.execute (invocation : Invocation) : IO UInt32 := do
  let disk ← invocation.gather
  let (outcome, after) := invocation.run disk
  (after.changesFrom disk).forM fun placed => putBack placed.1 placed.2
  outcome.report

/-- Carries out a command line on the file system. -/
def execute (arguments : List Text) : IO UInt32 :=
  match Invocation.read arguments with
  | .error stop => (Outcome.stopped stop).report
  | .ok invocation =>
    tryCatch invocation.execute fun fault =>
      (Outcome.exited 1 [] (linesText [faultLine (Text.ofString fault.toString)])).report

end Phrasebook.CommandLine

/-- Carries out the command line of the program. -/
def main (arguments : List String) : IO UInt32 :=
  Phrasebook.CommandLine.execute (arguments.map Phrasebook.Text.ofString)
