import Phrasebook.Proofs.Loading

/-!
# Files of settings

A file configures the settings that the table `tool.i18ntree` in it describes, and the default settings if it
has no such table, whatever else stands in it. The loading of a file gives the settings that it configures, or
ends in a failure that files of settings are known to have. It escapes if the table of all tools is no table,
and as long as nothing is nested too deep this is all that escapes.
-/

namespace Phrasebook.Settings

open Outcome

/-! ### What a file says -/

/-- What stands at the name of the settings in the table of a file. -/
inductive Holds (table : Fields) : Option Datum → Prop
  | noTools (absent : table.get? "tool" = none) : Holds table none
  | tools {tools : Fields} (given : table.get? "tool" = some (.record tools)) :
      Holds table (tools.get? "i18ntree")

/-- A file configures settings. -/
inductive Configures [Host] (disk : Disk) (path : FilePath) : Settings → Prop
  | defaults {content : Utf8.Bytes} {text : Text} {table : Fields} (read : disk.read path = .ok content)
      (decoded : Utf8.decode content = .ok text) (parsed : Toml.read text = .ok table) (holds : Holds table none) :
      Configures disk path initial
  | described {content : Utf8.Bytes} {text : Text} {table fields : Fields} {settings : Settings}
      (read : disk.read path = .ok content) (decoded : Utf8.decode content = .ok text)
      (parsed : Toml.read text = .ok table) (holds : Holds table (some (.record fields)))
      (described : Describes path.parent fields settings) : Configures disk path settings

section Files

variable [Host] {disk : Disk} {path : FilePath} {table : Fields} {settings : Settings} {failure : Failure}

omit [Host] in
theorem toolTable?_eq_ok {value : Option Datum} : toolTable? table = .ok value ↔ Holds table value := by
  unfold toolTable?
  constructor
  · intro found
    split at found
    · rename_i absent
      cases found
      exact .noTools absent
    · rename_i given
      cases found
      exact .tools given
    · cases found
  · rintro (absent | given)
    · rw [absent]
    · rw [given]

/-- The settings that are loaded are those that the file configures. -/
theorem load_eq_ok : (load disk path).result = .ok settings ↔ Configures disk path settings := by
  simp only [load, reported_bind_eq_ok, reported_ofExcept, mapError_eq_ok, reported_lift, toolTable?_eq_ok]
  constructor
  · rintro ⟨content, read, text, decoded, table, parsed, value, holds, given⟩
    split at given
    · simp only [reported_bind_eq_ok, reported_pure, Except.ok.injEq] at given
      rcases given with ⟨_, _, rfl⟩
      exact .defaults read decoded parsed holds
    · rw [reported_lift, ofTable_eq_ok] at given
      exact .described read decoded parsed holds given
    · cases given
  · rintro (⟨read, decoded, parsed, holds⟩ | ⟨read, decoded, parsed, holds, described⟩)
    · exact ⟨_, read, _, decoded, _, parsed, none, holds, rfl⟩
    · refine ⟨_, read, _, decoded, _, parsed, _, holds, ?_⟩
      rw [reported_lift, ofTable_eq_ok]
      exact described

/-! ### Failures -/

omit [Host] in
/-- In a file whose table is shallow the table of settings is shallow. -/
theorem Holds.heightFields_le {fields : Fields} (holds : Holds table (some (.record fields))) :
    Datum.heightFields fields ≤ Datum.heightFields table := by
  generalize held : some (Datum.record fields) = value at holds
  cases holds with
  | noTools => cases held
  | @tools tools given =>
    have outer : Datum.heightFields tools + 1 ≤ Datum.heightFields table := Datum.height_le_of_mem (Fields.mem_of_get? given)
    have inner : Datum.heightFields fields + 1 ≤ Datum.heightFields tools :=
      Datum.height_le_of_mem (Fields.mem_of_get? held.symm)
    omega

/-- A file in which nothing is nested too deep escapes exactly if the table of all tools is no table. -/
theorem escapes_iff_of_shallow {content : Utf8.Bytes} {text : Text} (read : disk.read path = .ok content)
    (decoded : Utf8.decode content = .ok text) (parsed : Toml.read text = .ok table)
    (shallow : Datum.heightFields table < Host.settingDepth) :
    (∃ failure, Escapes disk path failure) ↔
      ∃ value, table.get? "tool" = some value ∧ ∀ tools, value ≠ .record tools := by
  constructor
  · rintro ⟨_, ⟨read', decoded', deep⟩ | ⟨read', decoded', parsed', given, other⟩ |
      ⟨read', decoded', parsed', given, deep⟩⟩
    · cases read.symm.trans read'
      cases decoded.symm.trans decoded'
      cases parsed.symm.trans deep
    · cases read.symm.trans read'
      cases decoded.symm.trans decoded'
      cases parsed.symm.trans parsed'
      exact ⟨_, given, other⟩
    · cases read.symm.trans read'
      cases decoded.symm.trans decoded'
      cases parsed.symm.trans parsed'
      have less := Nat.lt_of_le_of_lt (toolTable?_eq_ok.mp given).heightFields_le shallow
      exact absurd rfl ((refuses_of_ofTable deep).ne_nestedTooDeep less)
  · rintro ⟨value, given, other⟩
    exact ⟨_, .toolsNotTable read decoded parsed given other⟩

end Files

/-- Loading gives exactly the settings that a file configures, and ends in a failure that files of settings are
not known to have exactly if it escapes. A file in which nothing is nested too deep escapes exactly if something
else than a table stands at the name of all tools. -/
theorem load_unless_escaping [Host] (disk : Disk) (path : FilePath) :
    (∀ settings, (load disk path).result = .ok settings ↔ Configures disk path settings) ∧
    (∀ failure, (load disk path).result = .error failure ∧ ¬failure.isOfSettings ↔ Escapes disk path failure) ∧
    ∀ content text table, disk.read path = .ok content → Utf8.decode content = .ok text →
      Toml.read text = .ok table → Datum.heightFields table < Host.settingDepth →
      ((∃ failure, Escapes disk path failure) ↔
        ∃ value, table.get? "tool" = some value ∧ ∀ tools, value ≠ .record tools) :=
  ⟨fun _ => load_eq_ok, fun _ => load_eq_error, fun _ _ _ => escapes_iff_of_shallow⟩

section Example

open Host.Plain

/-- A disk with one file of settings. -/
def settingsDisk (text : Text) : Disk := .ofFiles [(.ofText "p.toml", Utf8.encode text)]

/-- A file that sets a path. -/
def sourceText : Text := "[tool.i18ntree]\nsource = \"s.json\"\n"

/-- Whether a table is shallow and has a table of all tools. -/
def hasTools (table : Fields) : Bool :=
  match table.get? "tool" with
  | some (.record _) => Datum.heightFields table < Host.settingDepth
  | _ => false

theorem load_unless_escaping_source :
    (∃ settings, Configures (settingsDisk sourceText) (.ofText "p.toml") settings ∧
        settings.source = some (.ofText "s.json")) ∧
      ¬∃ failure, Escapes (settingsDisk sourceText) (.ofText "p.toml") failure := by
  rcases load_unless_escaping (settingsDisk sourceText) (.ofText "p.toml") with ⟨loads, _, escapes⟩
  constructor
  · have source : (load (settingsDisk sourceText) (.ofText "p.toml")).result.toOption.map Settings.source =
        some (some (.ofText "s.json")) := by decide +kernel
    cases loaded : (load (settingsDisk sourceText) (.ofText "p.toml")).result with
    | error failure =>
      rw [loaded] at source
      cases source
    | ok settings =>
      rw [loaded] at source
      exact ⟨settings, (loads settings).mp loaded, Option.some.inj source⟩
  · have tools : (Toml.read sourceText).toOption.any hasTools := by decide +kernel
    cases parsed : Toml.read sourceText with
    | error fault =>
      rw [parsed] at tools
      cases tools
    | ok table =>
      rw [parsed, Except.toOption, Option.any_some, hasTools] at tools
      split at tools
      · rename_i given
        rw [escapes (Utf8.encode sourceText) sourceText table (by decide +kernel) (by decide +kernel) parsed
          (of_decide_eq_true tools), given]
        rintro ⟨_, ⟨⟩, other⟩
        exact other _ rfl
      · cases tools

/-- A file with a number for all tools is refused in a way that files of settings are not known to be. -/
theorem number_of_tools_escapes :
    (load (settingsDisk "tool = 1\n") (.ofText "p.toml")).result = .error (.toolsNotTable "int") ∧
      ¬(Failure.toolsNotTable "int").isOfSettings := by
  have failed : failure? (load (settingsDisk "tool = 1\n") (.ofText "p.toml")).result =
      some (.toolsNotTable "int") := by decide +kernel
  exact ⟨failure?_eq_some.mp failed, Bool.false_ne_true⟩

end Example

end Phrasebook.Settings
