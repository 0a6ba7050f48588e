import Phrasebook.Charset
import Phrasebook.CommandLine.Console
import Phrasebook.CommandLine.Invocation
import Phrasebook.Document.Source
import Phrasebook.KeyModule.Stamp
import Phrasebook.Language.Reader
import Phrasebook.Lookup.Resolver
import Phrasebook.Settings.Load

/-!
# Running commands

A command line is read, merged with the settings of its file, and carried out on a disk and a console. The
outcome is an exit code with what is written to the two streams of the console. The code is zero on
success, one for what is wrong with resources, files or the device of a stream, and two for what is wrong
with arguments or settings. The failures that no code stands for are outcomes of their own.

A command prints its answer last, after the file that it makes is in place. So the console decides how a
run ends, and never which files it leaves. A run that names no console has one that takes every line.
-/

namespace Phrasebook.CommandLine

/-- How a run ends. -/
inductive Outcome where
  /-- With an exit code, and the texts written to the streams for answers and for messages. -/
  | exited (code : Nat) (output messages : Text)
  /-- Before it starts, because of its arguments. -/
  | stopped (stop : Stop)
  /-- In a failure that has no exit code. -/
  | failed (failure : Failure)
deriving DecidableEq, Repr

/-- Why a command gives no answer. -/
inductive CommandFailure where
  | failure (failure : Failure)
  /-- An argument is missing that settings might have given, or cannot be used. -/
  | usage (message : Text)

/-- What a command answers: an exit code and the lines of its answer. -/
structure Answer where
  code : Nat := 0
  lines : List Text

/-- A step of a command. -/
abbrev Work := Reported CommandFailure

/-- A step that may fail. -/
def attempt {α : Type} (step : Reported Failure α) : Work α := step.mapError .failure

/-- A value that has to be given. -/
def required {α : Type} (value : Option α) (message : Text) : Work α :=
  match value with
  | some value => return value
  | none => throw (.usage message)

/-! ### Settings -/

/-- How nothing is shown in the place of a value. -/
def nothingShown : Text := (Datum.list []).display

/-- Takes the width of levels from a command line. -/
def overrideIndent (given : Given Int) (settings : Settings) : Except SettingsFault Settings :=
  match given with
  | .absent => .ok settings
  | .nothing => .error (.indentNotInteger nothingShown)
  | .value width => settings.withIndent width

/-- Takes the path of classes from a command line. -/
def overrideNamespace (given : Given Text) (settings : Settings) : Except SettingsFault Settings :=
  match given with
  | .absent => .ok settings
  | .nothing => .error (.namespaceNotText nothingShown)
  | .value path => .ok { settings with namespacePath := some path }

/-- The settings of a file with those of the command line over them. -/
def override (invocation : Invocation) (settings : Settings) : Except SettingsFault Settings :=
  let settings :=
    { settings with languages := invocation.languages.value? <|> settings.languages }
  match invocation.command with
  | .keys _ namespacePath indent _ => do
    overrideNamespace namespacePath (← overrideIndent indent settings)
  | .charset _ numeric _ =>
    .ok { settings with includeNumeric := numeric || settings.includeNumeric }
  | _ => .ok settings

/-- The settings of an invocation. -/
def settingsOf [Host] (disk : Disk) (invocation : Invocation) : Reported Failure Settings := do
  let settings ← match invocation.settings with
    | none => pure .initial
    | some path => Settings.load disk path
  Reported.ofExcept Failure.settings (override invocation settings)

/-! ### Commands -/

/-- What commands work with. -/
structure Session where
  invocation : Invocation
  settings : Settings
  /-- The form of findings. -/
  form : OutputFormat
  disk : Disk

namespace Session

/-- The end of a command that needs an argument for which nothing was given. -/
def empty {α : Type} (argument : EmptyArgument) : Work α :=
  throw (.failure (.emptyArgument argument))

/-- Loads the languages. -/
def registry [Host] (session : Session) : Work Registry :=
  match session.invocation.languages with
  | .nothing => empty .languages
  | _ => attempt (Registry.load session.disk session.settings.languages)

/-- The document to be read. -/
def source (session : Session) : Work FilePath :=
  required (session.invocation.source <|> session.settings.source)
    "no resource file given (pass SOURCE or set 'source' in [tool.i18ntree])"

/-- Reads the document with some languages. -/
def treeWith [Host] (session : Session) (registry : Registry) : Work Tree := do
  let path ← session.source
  attempt (Document.load registry session.disk path)

/-- Loads the languages and reads the document. -/
def load [Host] (session : Session) : Work (Registry × Tree) := do
  let _ ← session.source
  let registry ← session.registry
  return (registry, ← session.treeWith registry)

/-- Checks a document. -/
def check [Host] (session : Session) : Work Answer := do
  let (_, tree) ← session.load
  let summary : Text :=
    "OK: " ++ Numeral.natural tree.nodeCount ++ " node(s), " ++
      Numeral.natural tree.warnings.length ++ " warning(s), languages: " ++
      Text.joinWith ", " tree.languages
  return { lines := tree.warnings.map (Warning.format session.form) ++ [summary] }

/-- The line that tells of a file written. -/
def wroteLine (path : FilePath) : Text := "Wrote " ++ path.display

/-- Lets a file be written after what comes before. -/
def writing (before : Work (Reported Failure Unit × Disk)) (disk : Disk) (answer : Answer) :
    Work Answer × Disk :=
  match before.result with
  | .error failure => (⟨before.events, .error failure⟩, disk)
  | .ok (written, disk) =>
    (do
      let _ ← before
      attempt written
      return answer, disk)

/-- The options for a key module. Without a name for the class of all keys the names around it are
checked and no more. -/
def options (session : Session) (rootClass : Option Text) : Work KeyModule.Options :=
  let settings := session.settings
  match rootClass with
  | some name =>
    attempt (Reported.ofExcept id
      (KeyModule.Options.make settings.namespacePath settings.indentWidth name))
  | none =>
    match KeyModule.badName? (KeyModule.namespaceNames settings.namespacePath) with
    | some name =>
      throw (.failure (.problem (.invalidIdentifier name
        (KeyModule.shownPath settings.namespacePath []))))
    | none => empty .rootClass

/-- Makes a key module. -/
def keys [Host] (session : Session) (output : Option FilePath) (rootClass : Option Text) :
    Work Answer × Disk :=
  match output <|> session.settings.output with
  | none =>
    (throw (.usage "no output file given (pass -o or set 'output' in [tool.i18ntree])"),
      session.disk)
  | some path =>
    writing (do
        let options ← session.options rootClass
        let (_, tree) ← session.load
        return KeyModule.write options tree session.disk path)
      session.disk { lines := [wroteLine path] }

/-- The character set that is asked for, and the tree that it is made of. Languages that are needed for
their names are loaded before the document is looked for. -/
def charsetParts [Host] (session : Session) (languageNames : Bool) : Work (Charset × Tree) := do
  let numeric := session.settings.includeNumeric
  if languageNames then
    let registry ← session.registry
    return ({ numeric, registry := some registry }, ← session.treeWith registry)
  else
    let (_, tree) ← session.load
    return ({ numeric }, tree)

/-- Makes a character set, or answers with it. -/
def charset [Host] (session : Session) (output : Option FilePath) (languageNames : Bool) :
    Work Answer × Disk :=
  match output <|> session.settings.charsetOutput with
  | none =>
    (do
      let (charset, tree) ← session.charsetParts languageNames
      return { lines := [charset.characters tree] }, session.disk)
  | some path =>
    writing (do
        let (charset, tree) ← session.charsetParts languageNames
        return charset.write tree session.disk path)
      session.disk { lines := [wroteLine path] }

/-- The values that assignments give to tokens. -/
def assignments : List (Option Text) → Work Fields
  | [] => return []
  | none :: _ => empty .assignment
  | some pair :: rest =>
    match Text.cut '=' pair with
    | (first :: name, some value) => do
      let others ← assignments rest
      return if (Fields.get? others (first :: name)).isSome then others
        else (first :: name, .text value) :: others
    | _ => throw (.usage ("--set expects NAME=VALUE, got " ++ Quoted.encode pair))

/-- Looks up a text. Without a key path the language is checked and no more. -/
def resolve [Host] (session : Session) (key : Option Text) (language : Option Text)
    (pairs : List (Option Text)) (strict : Bool) : Work Answer := do
  let values ← if pairs.isEmpty then pure none else some <$> assignments pairs
  let (registry, tree) ← session.load
  let resolver := Resolver.make tree (some registry) strict none
  let code := match language with
    | none | some [] => registry.fallback.code
    | some code => code
  if key.isNone && registry.contains code then empty .key
  else return { lines := [← attempt (resolver.resolve code (key.getD nothingShown) values)] }

/-- Lists the keys below a key path. -/
def children [Host] (session : Session) (key : Option Text) : Work Answer := do
  let (registry, tree) ← session.load
  let resolver := Resolver.make tree (some registry) true none
  match key with
  | none => empty .key
  | some key =>
    return { lines := ← attempt (Reported.ofExcept Failure.problem (resolver.childKeys key)) }

/-- Asks whether a key module is stale. -/
def stale [Host] (session : Session) (output : Option FilePath) : Work Answer := do
  let path ← required (output <|> session.settings.output)
    "no generated file given (pass OUTPUT or set 'output' in [tool.i18ntree])"
  let (_, tree) ← session.load
  if ← attempt (Reported.ofExcept id (KeyModule.isStale session.disk path tree)) then
    return {
      code := 1
      lines := [path.display ++ " is stale; regenerate it with 'i18ntree keys'"] }
  else return { lines := [path.display ++ " is up to date"] }

/-- Carries out a command. -/
def run [Host] (session : Session) : Work Answer × Disk :=
  match session.invocation.command with
  | .check => (session.check, session.disk)
  | .keys output _ _ rootClass => session.keys output rootClass
  | .charset output _ languageNames => session.charset output languageNames
  | .resolve key language pairs strict =>
    (session.resolve key language pairs strict, session.disk)
  | .children key => (session.children key, session.disk)
  | .stale output => (session.stale output, session.disk)

end Session

/-! ### Outcomes -/

/-- Whether an event is reported. -/
def Verbosity.shows (verbosity : Verbosity) (event : Event) : Bool :=
  match verbosity with
  | .quiet => false
  | .normal => Level.warning.rank ≤ event.level.rank
  | .verbose => true

/-- Lines with their breaks. -/
def linesText (lines : List Text) : Text := lines.flatMap (· ++ "\n")

/-- The lines for the events that are reported. -/
def eventLines (verbosity : Verbosity) (events : List Event) : List Text :=
  (events.filter verbosity.shows).map Event.line

/-- The line for a fault of the program's use or of a file. -/
def faultLine (message : Text) : Text := program ++ ": " ++ message

section Outcomes

variable (console : Console)

/-- The outcome with a code after some lines of an answer and of the log, where a fault is told. -/
def faultOutcome (code : Nat) (shown logged : List Text) (line : Text) : Outcome :=
  match console.lost? with
  | none => .exited code (linesText shown) (linesText (logged ++ [line]))
  | some reason => .failed (.stream (.device reason))

/-- The outcome of a failure to find settings. -/
def settingsOutcome (invocation : Invocation) (events : List Event) (failure : Failure) : Outcome :=
  match failure with
  | .file _ _ | .settings _ | .undecodable _ | .numberTooLong _ =>
    faultOutcome console 2 [] (eventLines invocation.verbosity events)
      (faultLine ("configuration error: " ++ failure.message))
  | failure => .failed failure

/-- The outcome of a failure of a command, after some lines of its answer. -/
def failureOutcome (verbosity : Verbosity) (form : OutputFormat) (events : List Event)
    (shown : List Text) (failure : Failure) : Outcome :=
  let told := faultOutcome console 1 shown (eventLines verbosity events)
  match failure with
  | .problem problem => told (problem.diagnostic.format { form })
  | .file fault _ | .temporaryFile fault _ =>
    if fault.isOfPath then .failed failure else told (faultLine failure.message)
  | .stream (.device _) => told (faultLine failure.message)
  | failure => .failed failure

/-- The outcome of a command, after the events before it. -/
def commandOutcome (verbosity : Verbosity) (form : OutputFormat) (before : List Event)
    (work : Work Answer) : Outcome :=
  let events := before ++ work.events
  match work.result with
  | .ok answer =>
    match console.print answer.lines with
    | (shown, none) =>
      .exited answer.code (linesText shown)
        (linesText (console.logged (eventLines verbosity events)))
    | (shown, some fault) => failureOutcome console verbosity form events shown (.stream fault)
  | .error (.usage message) =>
    faultOutcome console 2 [] (eventLines verbosity events) (faultLine message)
  | .error (.failure failure) => failureOutcome console verbosity form events [] failure

end Outcomes

/-- Carries out an invocation with a console. -/
def Invocation.runOn [Host] (console : Console) (invocation : Invocation) (disk : Disk) :
    Outcome × Disk :=
  let read := settingsOf disk invocation
  match read.result, invocation.form with
  | .error failure, _ => (settingsOutcome console invocation read.events failure, disk)
  | .ok _, none => (.failed (.emptyArgument .form), disk)
  | .ok settings, some form =>
    let (work, after) := Session.run { invocation, settings, form, disk }
    (commandOutcome console invocation.verbosity form
      (read.events ++ [.commandStarted invocation.name]) work, after)

/-- Carries out an invocation. -/
def Invocation.run [Host] (invocation : Invocation) (disk : Disk) : Outcome × Disk :=
  invocation.runOn .accepting disk

/-- Carries out a command line with a console. -/
def runOn [Host] (console : Console) (arguments : List Text) (disk : Disk) : Outcome × Disk :=
  match Invocation.read arguments with
  | .error stop => (.stopped stop, disk)
  | .ok invocation => invocation.runOn console disk

/-- Carries out a command line. -/
def run [Host] (arguments : List Text) (disk : Disk) : Outcome × Disk := runOn .accepting arguments disk

end Phrasebook.CommandLine
