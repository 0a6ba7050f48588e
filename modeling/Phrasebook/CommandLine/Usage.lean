import Phrasebook.CommandLine.Invocation
import Phrasebook.Settings.Basic

/-!
# Use of the program

What a command line is made of, in the lines that answer a call for help, and the paths that an
invocation may lead to.
-/

namespace Phrasebook.CommandLine

/-- The names of some switches, each in brackets. -/
def switchesText (switches : List Switch) : Text :=
  Text.joinWith " " (switches.map fun switch => "[" ++ switch.display ++ "]")

/-- The lines that answer a call for help. -/
def usageLines : List Text :=
  ("usage: " ++ program ++ " " ++ switchesText mainGrammar.switches ++ " COMMAND") ::
    commandNames.map fun name => "  " ++ name ++ " " ++ switchesText (commandGrammar name).switches

/-- The file that a command is asked to write or to look at. -/
def Command.output? : Command → Option FilePath
  | .keys output _ _ _ => output
  | .charset output _ _ => output
  | .stale output => output
  | .check | .resolve _ _ _ _ | .children _ => none

/-- The paths that an invocation may lead to when it is carried out with some settings. -/
def Invocation.paths (invocation : Invocation) (settings : Settings) : List FilePath :=
  [invocation.source, settings.source, settings.languages, invocation.command.output?,
    settings.output, settings.charsetOutput].filterMap id

end Phrasebook.CommandLine
