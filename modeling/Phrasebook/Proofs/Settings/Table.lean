import Phrasebook.Proofs.Display
import Phrasebook.Proofs.Outcome
import Phrasebook.Settings.Basic

/-!
# Tables of settings

What a table of settings says is defined here without its reader: each path in it is the path as seen from a
directory, a width is a positive number, a choice is a truth value, and what is not given has its default. The
reader gives exactly the settings that a table describes. Any other table is refused with a fault of settings,
unless a value that it holds is nested deeper than a message can display it.
-/

namespace Phrasebook

open Outcome

namespace Settings

/-! ### What a table says -/

/-- The path that a setting gives, as seen from a directory. -/
inductive PathOf (directory : FilePath) : Option Datum → Option FilePath → Prop
  | unset : PathOf directory none none
  | absolute {text : Text} (rooted : (FilePath.ofText text).isAbsolute) :
      PathOf directory (some (.text text)) (some (.ofText text))
  | relative {text : Text} (rootless : ¬(FilePath.ofText text).isAbsolute) :
      PathOf directory (some (.text text)) (some ⟨directory.root, directory.names ++ (FilePath.ofText text).names⟩)

/-- The width that a setting gives. -/
inductive WidthOf (default : Nat) : Option Datum → Nat → Prop
  | unset : WidthOf default none default
  | given {width : Nat} (positive : 0 < width) : WidthOf default (some (.int width)) width

/-- The choice that a setting gives. -/
inductive ChoiceOf (default : Bool) : Option Datum → Bool → Prop
  | unset : ChoiceOf default none default
  | given {value : Bool} : ChoiceOf default (some (.bool value)) value

/-- The text that a setting gives. -/
inductive TextOf (default : Option Text) : Option Datum → Option Text → Prop
  | unset : TextOf default none default
  | null : TextOf default (some .null) default
  | given {text : Text} : TextOf default (some (.text text)) (some text)

/-- A table describes settings, with paths as seen from a directory. -/
structure Describes (directory : FilePath) (table : Fields) (settings : Settings) : Prop where
  known : ∀ field ∈ table, field.1 ∈ names
  texts : ∀ field ∈ table, field.1 ∈ pathNames → ∃ text, field.2 = .text text
  source : PathOf directory (table.get? "source") settings.source
  languages : PathOf directory (table.get? "languages") settings.languages
  output : PathOf directory (table.get? "output") settings.output
  charsetOutput : PathOf directory (table.get? "charset_output") settings.charsetOutput
  indentWidth : WidthOf 4 (table.get? "indent_width") settings.indentWidth
  includeNumeric : ChoiceOf false (table.get? "include_numeric") settings.includeNumeric
  namespacePath : TextOf none (table.get? "namespace") settings.namespacePath

/-- A table is refused with a fault of settings, or for a value that is nested too deep to be displayed. -/
inductive Refuses [Host] (table : Fields) : Failure → Prop
  | fault (fault : SettingsFault) : Refuses table (.settings fault)
  | tooDeep {name : Text} {value : Datum} (listed : (name, value) ∈ table)
      (deep : value.obstacle? Host.settingDepth = some .tooDeep) : Refuses table .nestedTooDeep

section Table

variable {table : Fields} {directory : FilePath} {base : Option FilePath} {settings before : Settings}
  {failure : Failure}

/-! ### Checks -/

theorem checkNames_eq_ok : checkNames table = .ok () ↔ ∀ field ∈ table, field.1 ∈ names := by
  have sorted : Text.sort ((table.map Prod.fst).filter fun name => !names.contains name) = [] ↔
      ∀ field ∈ table, field.1 ∈ names := by
    rw [Text.sort, ← List.length_eq_zero_iff, List.length_mergeSort, List.length_eq_zero_iff,
      List.filter_eq_nil_iff]
    simp
  rw [checkNames, ← sorted]
  split
  · rename_i none
    exact iff_of_true rfl none
  · rename_i some
    exact iff_of_false nofun some

theorem checkPath_eq_ok [Host] {field : Text × Datum} :
    checkPath field = .ok () ↔ (field.1 ∈ pathNames → ∃ text, field.2 = .text text) := by
  rw [← List.contains_iff_mem]
  unfold checkPath
  split
  · rename_i text isPath given
    exact iff_of_true rfl fun _ => ⟨text, given⟩
  · rename_i isPath other
    apply iff_of_false nofun
    intro suits
    rcases suits isPath with ⟨text, given⟩
    exact other text given
  · rename_i noPath
    apply iff_of_true rfl
    intro isPath
    cases noPath.symm.trans isPath

/-- A path setting that is a text gives the path that is read from it. -/
theorem path?_iff {name : Text} (isPath : name ∈ pathNames)
    (texts : ∀ field ∈ table, field.1 ∈ pathNames → ∃ text, field.2 = .text text) {path : Option FilePath} :
    PathOf directory (table.get? name) path ↔ path? table (some directory) name = path := by
  cases given : table.get? name with
  | none =>
    simp only [path?, given]
    constructor
    · rintro ⟨⟩
      rfl
    · rintro rfl
      exact .unset
  | some value =>
    rcases texts _ (Fields.mem_of_get? given) isPath with ⟨text, rfl⟩
    simp only [path?, given, FilePath.inside]
    constructor
    · rintro (_ | rooted | rootless)
      · rw [if_pos rooted]
      · rw [if_neg rootless]
    · rintro rfl
      split
      · rename_i rooted
        exact .absolute rooted
      · rename_i rootless
        exact .relative rootless

/-! ### Settings that are no paths -/

theorem setIndent_eq_ok [Host] :
    setIndent table before = .ok settings ↔
      ∃ width positive, WidthOf before.indentWidth (table.get? "indent_width") width ∧
        { before with indentWidth := width, indentWidth_pos := positive } = settings := by
  unfold setIndent
  split
  · rename_i absent
    rw [absent, Except.ok.injEq]
    constructor
    · rintro rfl
      exact ⟨_, before.indentWidth_pos, .unset, rfl⟩
    · rintro ⟨_, _, ⟨⟩, rfl⟩
      rfl
  · rename_i width given
    rw [given, mapError_eq_ok, withIndent]
    constructor
    · intro accepted
      split at accepted
      · rename_i positive
        cases accepted
        have whole : (width.toNat : Int) = width := Int.toNat_of_nonneg (by omega)
        refine ⟨width.toNat, positive, ?_, rfl⟩
        conv => arg 2; rw [← whole]
        exact .given positive
      · cases accepted
    · rintro ⟨_, _, ⟨⟩, rfl⟩
      rename_i positive _
      exact dif_pos positive
  · rename_i value other given
    rw [given]
    apply iff_of_false nofun
    rintro ⟨_, _, ⟨_⟩, _⟩
    exact other _ rfl

theorem setNumeric_eq_ok [Host] :
    setNumeric table before = .ok settings ↔
      ∃ choice, ChoiceOf before.includeNumeric (table.get? "include_numeric") choice ∧
        { before with includeNumeric := choice } = settings := by
  unfold setNumeric
  split
  · rename_i absent
    rw [absent, Except.ok.injEq]
    constructor
    · rintro rfl
      exact ⟨_, .unset, rfl⟩
    · rintro ⟨_, ⟨⟩, rfl⟩
      rfl
  · rename_i value given
    rw [given, Except.ok.injEq]
    constructor
    · rintro rfl
      exact ⟨value, .given, rfl⟩
    · rintro ⟨_, ⟨⟩, rfl⟩
      rfl
  · rename_i value other given
    rw [given]
    apply iff_of_false nofun
    rintro ⟨_, ⟨⟩, _⟩
    exact other _ rfl

theorem setNamespace_eq_ok [Host] :
    setNamespace table before = .ok settings ↔
      ∃ namespacePath, TextOf before.namespacePath (table.get? "namespace") namespacePath ∧
        { before with namespacePath } = settings := by
  unfold setNamespace
  split
  · rename_i absent
    rw [absent, Except.ok.injEq]
    constructor
    · rintro rfl
      exact ⟨_, .unset, rfl⟩
    · rintro ⟨_, ⟨⟩, rfl⟩
      rfl
  · rename_i null
    rw [null, Except.ok.injEq]
    constructor
    · rintro rfl
      exact ⟨_, .null, rfl⟩
    · rintro ⟨_, ⟨⟩, rfl⟩
      rfl
  · rename_i text given
    rw [given, Except.ok.injEq]
    constructor
    · rintro rfl
      exact ⟨some text, .given, rfl⟩
    · rintro ⟨_, ⟨⟩, rfl⟩
      rfl
  · rename_i value notNull notText given
    rw [given]
    apply iff_of_false nofun
    rintro ⟨_, _ | _ | _, _⟩
    · exact notNull rfl
    · exact notText _ rfl

/-! ### The whole table -/

/-- The settings that are read from a table are those that it describes. -/
theorem ofTable_eq_ok [Host] :
    ofTable table (some directory) = .ok settings ↔ Describes directory table settings := by
  simp only [ofTable, bind_eq_ok, setIndent_eq_ok, setNumeric_eq_ok, setNamespace_eq_ok]
  constructor
  · rintro ⟨⟨⟩, named, ⟨⟩, checked, indented, ⟨width, positive, ofWidth, rfl⟩, numbered, ⟨choice, ofChoice, rfl⟩,
      namespacePath, ofText, rfl⟩
    have texts := fun field member => checkPath_eq_ok.mp (forM_eq_ok.mp checked field member)
    exact {
      known := checkNames_eq_ok.mp named
      texts
      source := (path?_iff (by decide) texts).mpr rfl
      languages := (path?_iff (by decide) texts).mpr rfl
      output := (path?_iff (by decide) texts).mpr rfl
      charsetOutput := (path?_iff (by decide) texts).mpr rfl
      indentWidth := ofWidth
      includeNumeric := ofChoice
      namespacePath := ofText }
  · intro described
    have texts := described.texts
    have checked := forM_eq_ok.mpr fun field member => checkPath_eq_ok.mpr (texts field member)
    refine ⟨(), checkNames_eq_ok.mpr described.known, (), checked, _,
      ⟨_, settings.indentWidth_pos, described.indentWidth, rfl⟩, _, ⟨_, described.includeNumeric, rfl⟩,
      _, described.namespacePath, ?_⟩
    rw [(path?_iff (by decide) texts).mp described.source, (path?_iff (by decide) texts).mp described.languages,
      (path?_iff (by decide) texts).mp described.output, (path?_iff (by decide) texts).mp described.charsetOutput]

theorem refuses_unsuitable [Host] {name : Text} {value : Datum} (listed : (name, value) ∈ table)
    (fault : Text → SettingsFault) : Refuses table (unsuitable value fault) := by
  unfold unsuitable
  split
  · rename_i deep
    exact .tooDeep listed deep
  · exact .fault _
  · exact .fault _

/-- A table that does not describe settings is refused. -/
theorem refuses_of_ofTable [Host] (failed : ofTable table base = .error failure) : Refuses table failure := by
  simp only [ofTable, bind_eq_error] at failed
  rcases failed with unnamed | ⟨_, _, unpathed | ⟨_, _, unindented | ⟨_, _, unnumbered | ⟨_, _, failed⟩⟩⟩⟩
  · unfold checkNames at unnamed
    split at unnamed <;> cases unnamed
    exact .fault _
  · rcases exists_of_forM_eq_error unpathed with ⟨⟨name, value⟩, listed, failed⟩
    unfold checkPath at failed
    split at failed <;> cases failed
    exact refuses_unsuitable listed _
  · unfold setIndent at unindented
    split at unindented
    · cases unindented
    · rcases mapError_eq_error.mp unindented with ⟨fault, _, rfl⟩
      exact .fault fault
    · rename_i given
      cases unindented
      exact refuses_unsuitable (Fields.mem_of_get? given) _
  · unfold setNumeric at unnumbered
    split at unnumbered <;> cases unnumbered
    rename_i given
    exact refuses_unsuitable (Fields.mem_of_get? given) _
  · unfold setNamespace at failed
    split at failed <;> cases failed
    rename_i given
    exact refuses_unsuitable (Fields.mem_of_get? given) _

/-- A table in which nothing is nested too deep is refused with a fault of settings only. -/
theorem Refuses.ne_nestedTooDeep [Host] (refuses : Refuses table failure)
    (shallow : Datum.heightFields table < Host.settingDepth) : failure ≠ .nestedTooDeep := by
  cases refuses with
  | fault => nofun
  | tooDeep listed deep =>
    exact absurd deep (Datum.obstacle?_ne_tooDeep _ (Nat.lt_of_le_of_lt (Datum.height_le_of_mem listed) shallow))

end Table

end Settings

end Phrasebook
