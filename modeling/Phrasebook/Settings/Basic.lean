import Phrasebook.Datum
import Phrasebook.Failure
import Phrasebook.Host

/-!
# Settings

The settings of a project: where its resources and its languages are, and what is made from them. They
are read from a table; paths in it are seen from a directory. Every setting that is given must be known
and suit its kind.
-/

namespace Phrasebook

/-- The settings of a project. -/
structure Settings where
  /-- The resource document. -/
  source : Option FilePath := none
  /-- The document that configures the languages. -/
  languages : Option FilePath := none
  /-- The key module to make. -/
  output : Option FilePath := none
  /-- The dotted path of classes around the keys of a module. -/
  namespacePath : Option Text := none
  /-- The number of blanks for each level of a key module. -/
  indentWidth : Nat := 4
  /-- Whether the characters of numbers belong to every character set. -/
  includeNumeric : Bool := false
  /-- The character set to make. -/
  charsetOutput : Option FilePath := none
  indentWidth_pos : 0 < indentWidth := by decide

namespace Settings

/-- The settings of a project that sets nothing. -/
def initial : Settings := {}

/-- The settings that are paths. -/
def pathNames : List Text :=
  List.map Text.ofString ["source", "languages", "output", "charset_output"]

/-- All settings. -/
def names : List Text :=
  pathNames ++ List.map Text.ofString ["namespace", "indent_width", "include_numeric"]

/-- The failure for a value that does not suit its setting. The value is displayed, if it can be. -/
def unsuitable [Host] (value : Datum) (fault : Text → SettingsFault) : Failure :=
  match value.obstacle? Host.settingDepth with
  | some .tooDeep => .nestedTooDeep
  | some .longInteger => .settings .valueTooLong
  | none => .settings (fault value.display)

/-- Refuses names that are no settings. -/
def checkNames (table : Fields) : Except Failure Unit :=
  match Text.sort ((table.map Prod.fst).filter fun name => !names.contains name) with
  | [] => .ok ()
  | unknown => .error (.settings (.unknownNames unknown))

/-- Refuses paths that are no texts. -/
def checkPath [Host] (field : Text × Datum) : Except Failure Unit :=
  match pathNames.contains field.1, field.2 with
  | true, .text _ => .ok ()
  | true, value => .error (unsuitable value (.pathNotText field.1))
  | false, _ => .ok ()

/-- A path setting, as seen from a directory. -/
def path? (table : Fields) (base : Option FilePath) (name : Text) : Option FilePath :=
  match table.get? name with
  | some (.text value) =>
    let path := FilePath.ofText value
    some (match base with
      | some directory => directory.inside path
      | none => path)
  | _ => none

/-- Changes the width of the levels of key modules. -/
def withIndent (settings : Settings) (width : Int) : Except SettingsFault Settings :=
  if positive : 0 < width.toNat then
    .ok { settings with indentWidth := width.toNat, indentWidth_pos := positive }
  else .error (.badWidth width)

/-- Takes the width of levels from a table. -/
def setIndent [Host] (table : Fields) (settings : Settings) : Except Failure Settings :=
  match table.get? "indent_width" with
  | none => .ok settings
  | some (.int width) => (settings.withIndent width).mapError .settings
  | some value => .error (unsuitable value .indentNotInteger)

/-- Takes the choice of numeric characters from a table. -/
def setNumeric [Host] (table : Fields) (settings : Settings) : Except Failure Settings :=
  match table.get? "include_numeric" with
  | none => .ok settings
  | some (.bool value) => .ok { settings with includeNumeric := value }
  | some value => .error (unsuitable value .flagNotBoolean)

/-- Takes the path of classes from a table. -/
def setNamespace [Host] (table : Fields) (settings : Settings) : Except Failure Settings :=
  match table.get? "namespace" with
  | none | some .null => .ok settings
  | some (.text value) => .ok { settings with namespacePath := some value }
  | some value => .error (unsuitable value .namespaceNotText)

/-- Reads settings from a table, with paths as seen from a directory. -/
def ofTable [Host] (table : Fields) (base : Option FilePath) : Except Failure Settings := do
  checkNames table
  table.forM checkPath
  let paths : Settings :=
    { initial with
      source := path? table base "source"
      languages := path? table base "languages"
      output := path? table base "output"
      charsetOutput := path? table base "charset_output" }
  setNamespace table (← setNumeric table (← setIndent table paths))

end Settings

end Phrasebook
