import Phrasebook.Failure

/-!
# Consoles

The two streams of a program. Answers are printed to the one line by line, and the first line that is not
taken ends the printing: the device of the stream may fail, or its encoding may lack a character. The
stream for messages escapes what its encoding lacks; its device may be lost, and then it takes no line at
all. The log passes over that, but a fault cannot be told. What a stream has taken is not lost later on.
-/

namespace Phrasebook.CommandLine

/-- The streams for answers and for messages. -/
structure Console where
  /-- Why the stream for answers does not take a line after those that it has taken, if it does not. -/
  refusal? : List Text → Text → Option StreamFault := fun _ _ => none
  /-- Why the stream for messages takes no line, if its device is lost. -/
  lost? : Option Text := none

namespace Console

/-- A console that takes every line. -/
def accepting : Console := {}

/-- Prints lines after others: those that are taken then, and what ends the printing before all of them are. -/
def printAfter (console : Console) (taken : List Text) : List Text → List Text × Option StreamFault
  | [] => (taken, none)
  | line :: rest =>
    match console.refusal? taken line with
    | some fault => (taken, some fault)
    | none => console.printAfter (taken ++ [line]) rest

/-- Prints lines: those that are taken, and what ends the printing before all of them are. -/
def print (console : Console) (lines : List Text) : List Text × Option StreamFault :=
  console.printAfter [] lines

/-- The lines of a log that the stream for messages takes. -/
def logged (console : Console) (lines : List Text) : List Text :=
  if console.lost?.isSome then [] else lines

end Console

end Phrasebook.CommandLine
