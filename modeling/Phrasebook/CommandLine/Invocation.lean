import Phrasebook.CommandLine.Parsing
import Phrasebook.Diagnostic
import Phrasebook.File.Path
import Phrasebook.KeyModule.Options

/-!
# Invocations

The commands of the program and their arguments: to check a document, to make a key module or a
character set, to look up a text or the keys below one, and to ask whether a key module is stale. The
switches before the command are common to all.
-/

namespace Phrasebook.CommandLine

/-- Which events are reported. -/
inductive Verbosity where
  | quiet
  | normal
  | verbose
deriving DecidableEq, Repr

/-- A command with its arguments. A key path, the name of a class and an assignment may be missing where
nothing was given for them. -/
inductive Command where
  | check
  | keys (output : Option FilePath) (namespacePath : Given Text) (indent : Given Int)
    (rootClass : Option Text)
  | charset (output : Option FilePath) (numeric languageNames : Bool)
  | resolve (key : Option Text) (language : Option Text) (assignments : List (Option Text))
    (strict : Bool)
  | children (key : Option Text)
  | stale (output : Option FilePath)
deriving DecidableEq, Repr

/-- A whole command line. -/
structure Invocation where
  /-- The name of the command. -/
  name : Text
  command : Command
  /-- The document that the command is about. -/
  source : Option FilePath := none
  languages : Given FilePath := .absent
  settings : Option FilePath := none
  /-- The form of findings, unless nothing was given for it. -/
  form : Option OutputFormat := some .full
  verbosity : Verbosity := .normal
deriving DecidableEq, Repr

/-! ### The grammars -/

/-- The switch for a file of languages. -/
def languagesSwitch : Switch := ⟨["--languages"], some .text⟩

/-- The switch for a file of settings. -/
def settingsSwitch : Switch := ⟨["--config"], some .text⟩

/-- The switch for the form of findings. -/
def formSwitch : Switch :=
  ⟨["--format"], some (.choice [OutputFormat.full.name, OutputFormat.brief.name,
    OutputFormat.json.name])⟩

/-- The switch that asks for all events. -/
def verboseSwitch : Switch := ⟨["-v", "--verbose"], none⟩

/-- The switch that asks for no events. -/
def quietSwitch : Switch := ⟨["-q", "--quiet"], none⟩

/-- The switch for a file to be written. -/
def outputSwitch : Switch := ⟨["-o", "--output"], some .text⟩

/-- The switch for the classes around the keys. -/
def namespaceSwitch : Switch := ⟨["--namespace"], some .text⟩

/-- The switch for the blanks of a level. -/
def indentSwitch : Switch := ⟨["--indent"], some .integer⟩

/-- The switch for the name of the class for all keys. -/
def rootClassSwitch : Switch := ⟨["--root-class"], some .text⟩

/-- The switch for the characters of numbers. -/
def numericSwitch : Switch := ⟨["--numeric"], none⟩

/-- The switch for the characters of the names of languages. -/
def languageNamesSwitch : Switch := ⟨["--language-names"], none⟩

/-- The switch for a language code. -/
def languageSwitch : Switch := ⟨["--lang"], some .text⟩

/-- The switch for the value of a token. -/
def assignmentSwitch : Switch := ⟨["--set"], some .text⟩

/-- The switch for strict look-ups. -/
def strictSwitch : Switch := ⟨["--strict"], none⟩

/-- The place of the document. -/
def sourcePlace : Place := ⟨"source", .optional, .text⟩

/-- The place of a key path. -/
def keyPlace : Place := ⟨"key", .one, .text⟩

/-- The place of a key module. -/
def outputPlace : Place := ⟨"output", .optional, .text⟩

/-- The names of the commands. -/
def commandNames : List Text :=
  List.map Text.ofString ["check", "keys", "charset", "resolve", "children", "stale"]

/-- The place of the command and its arguments. -/
def commandPlace : Place := ⟨"command", .rest, .choice commandNames⟩

/-- The name of the program. -/
def program : Text := "i18ntree"

/-- The grammar of what stands before a command. -/
def mainGrammar : Grammar where
  program := program
  switches :=
    [helpSwitch, languagesSwitch, settingsSwitch, formSwitch, verboseSwitch, quietSwitch]
  places := [commandPlace]
  exclusive := [verboseSwitch, quietSwitch]

/-- The switches of a command. -/
def commandSwitches (name : Text) : List Switch :=
  if name = "keys" then [outputSwitch, namespaceSwitch, indentSwitch, rootClassSwitch]
  else if name = "charset" then [outputSwitch, numericSwitch, languageNamesSwitch]
  else if name = "resolve" then [languageSwitch, assignmentSwitch, strictSwitch]
  else []

/-- The places of a command after that of the document. -/
def commandPlaces (name : Text) : List Place :=
  if name = "resolve" ∨ name = "children" then [keyPlace]
  else if name = "stale" then [outputPlace]
  else []

/-- The grammar of a command. -/
def commandGrammar (name : Text) : Grammar where
  program := program ++ " " ++ name
  switches := helpSwitch :: commandSwitches name
  places := sourcePlace :: commandPlaces name

/-! ### Reading the command line -/

namespace Parsed

/-- What was given last for a switch. -/
def given (parsed : Parsed) (switch : Switch) : Given Text :=
  match parsed.switches.reverse.lookup switch.name with
  | none => .absent
  | some none => .nothing
  | some (some value) => .value value

/-- Whether a switch was given. -/
def has (parsed : Parsed) (switch : Switch) : Bool :=
  (parsed.switches.map Prod.fst).contains switch.name

/-- All values of a switch in order, none where nothing was given. -/
def values (parsed : Parsed) (switch : Switch) : List (Option Text) :=
  (parsed.switches.filter fun given => given.1 = switch.name).map Prod.snd

/-- What was given last for a switch, or else a value. -/
def valueOr (parsed : Parsed) (switch : Switch) (absent : Text) : Option Text :=
  match parsed.given switch with
  | .absent => some absent
  | .nothing => none
  | .value value => some value

/-- The path that a switch gives. -/
def path? (parsed : Parsed) (switch : Switch) : Option FilePath :=
  (parsed.given switch).value?.map FilePath.ofText

/-- The value in a place. -/
def placed? (parsed : Parsed) (place : Place) : Option Text :=
  (parsed.places.lookup place.name).bind List.head?

/-- The path in a place. -/
def placedPath? (parsed : Parsed) (place : Place) : Option FilePath :=
  (parsed.placed? place).map FilePath.ofText

end Parsed

/-- The command with a name, from its arguments. -/
def commandOf (name : Text) (parsed : Parsed) : Command :=
  let key := parsed.placed? keyPlace
  if name = "keys" then
    .keys (parsed.path? outputSwitch) (parsed.given namespaceSwitch)
      ((parsed.given indentSwitch).map fun width => (Integer.read? width).getD 0)
      (parsed.valueOr rootClassSwitch KeyModule.defaultRootClass)
  else if name = "charset" then
    .charset (parsed.path? outputSwitch) (parsed.has numericSwitch)
      (parsed.has languageNamesSwitch)
  else if name = "resolve" then
    .resolve key (parsed.given languageSwitch).value? (parsed.values assignmentSwitch)
      (parsed.has strictSwitch)
  else if name = "children" then .children key
  else if name = "stale" then .stale (parsed.placedPath? outputPlace)
  else .check

/-- The verbosity that is asked for. -/
def verbosityOf (parsed : Parsed) : Verbosity :=
  if parsed.has verboseSwitch then .verbose
  else if parsed.has quietSwitch then .quiet
  else .normal

/-- Reads a command line. -/
def Invocation.read (arguments : List Text) : Except Stop Invocation := do
  let before ← mainGrammar.parse arguments
  let given := (before.places.lookup commandPlace.name).getD []
  let name := given.headD []
  let parsed ← (commandGrammar name).parse given.tail
  match before.extras ++ parsed.extras with
  | [] =>
    return {
      name
      command := commandOf name parsed
      source := parsed.placedPath? sourcePlace
      languages := (before.given languagesSwitch).map FilePath.ofText
      settings := before.path? settingsSwitch
      form := (before.valueOr formSwitch OutputFormat.full.name).bind OutputFormat.ofName?
      verbosity := verbosityOf before }
  | extras => throw (mainGrammar.fault (.unrecognized extras))

end Phrasebook.CommandLine
