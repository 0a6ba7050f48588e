import Phrasebook.Proofs.CommandLine.Writing
import Phrasebook.Proofs.KeyModule.Stamp

/-!
# Key modules that are up to date

A run that makes a key module stamps it with the hash of the document that it reads. So a run that asks
for the same module finds it up to date as long as the document has that hash, and stale otherwise.
-/

namespace Phrasebook

open Disk Outcome KeyModule

namespace CommandLine

variable {invocation : Invocation} {disk : Disk} {settings : Settings} {registry : Registry}
  {source output : FilePath} {tree : Tree}

section Machine

variable [Host]

/-! ### What an invocation reads -/

/-- What an invocation reads on a disk: its settings, the languages, and the tree of the document. -/
structure Invocation.Reads (invocation : Invocation) (disk : Disk) (settings : Settings)
    (registry : Registry) (source : FilePath) (tree : Tree) : Prop where
  configured : (settingsOf disk invocation).result = .ok settings
  given : invocation.languages ≠ .nothing
  languages : (Registry.load disk settings.languages).result = .ok registry
  named : (invocation.source <|> settings.source) = some source
  document : (Document.load (some registry) disk source).result = .ok tree

omit [Host] in
theorem attempt_eq_ok {α : Type} {step : Reported Failure α} {answer : α} :
    (attempt step).result = .ok answer ↔ step.result = .ok answer :=
  mapError_eq_ok

omit [Host] in
theorem required_eq_ok {α : Type} {value : Option α} {message : Text} {answer : α} :
    (required value message).result = .ok answer ↔ value = some answer := by
  cases value <;> simp [required]

namespace Session

variable {session : Session}

theorem registry_eq_ok :
    session.registry.result = .ok registry ↔ session.invocation.languages ≠ .nothing ∧
      (Registry.load session.disk session.settings.languages).result = .ok registry := by
  rw [Session.registry]
  split
  · rename_i nothing
    simp [empty, nothing]
  · rename_i given
    rw [attempt_eq_ok]
    exact ⟨fun loaded => ⟨given, loaded⟩, And.right⟩

/-- A session loads what its invocation reads. -/
theorem load_eq_ok
    (configured : (settingsOf session.disk session.invocation).result = .ok session.settings) :
    session.load.result = .ok (registry, tree) ↔
      ∃ source, session.invocation.Reads session.disk session.settings registry source tree := by
  simp only [load, treeWith, Session.source, reported_bind_eq_ok, reported_pure, Except.ok.injEq,
    Prod.mk.injEq, registry_eq_ok, required_eq_ok, attempt_eq_ok]
  constructor
  · rintro ⟨_, _, _, ⟨given, languages⟩, _, ⟨source, named, document⟩, rfl, rfl⟩
    exact ⟨source, configured, given, languages, named, document⟩
  · rintro ⟨source, reads⟩
    exact ⟨source, reads.named, registry, ⟨reads.given, reads.languages⟩, tree,
      ⟨source, reads.named, reads.document⟩, rfl, rfl⟩

end Session

/-! ### Runs that succeed -/

section Outcomes

omit [Host]

variable {console : Console} {verbosity : Verbosity} {form : OutputFormat} {events : List Event}
  {lines messages : Text}

theorem faultOutcome_ne_exited_zero {code : Nat} (nonzero : code ≠ 0) {shown logged : List Text}
    {line : Text} : faultOutcome console code shown logged line ≠ .exited 0 lines messages := by
  unfold faultOutcome
  split
  · simp [nonzero]
  · simp

theorem settingsOutcome_ne_exited_zero {failure : Failure} :
    settingsOutcome console invocation events failure ≠ .exited 0 lines messages := by
  unfold settingsOutcome
  split
  · exact faultOutcome_ne_exited_zero (by decide)
  · exact faultOutcome_ne_exited_zero (by decide)
  · exact faultOutcome_ne_exited_zero (by decide)
  · exact faultOutcome_ne_exited_zero (by decide)
  · simp

theorem failureOutcome_ne_exited_zero {shown : List Text} {failure : Failure} :
    failureOutcome console verbosity form events shown failure ≠ .exited 0 lines messages := by
  have told (line : Text) : faultOutcome console 1 shown (eventLines verbosity events) line ≠
      .exited 0 lines messages :=
    faultOutcome_ne_exited_zero (by decide)
  unfold failureOutcome
  dsimp only
  split
  · exact told _
  · split
    · simp
    · exact told _
  · split
    · simp
    · exact told _
  · exact told _
  · simp

theorem answer_of_exited_zero {work : Work Answer}
    (exits : commandOutcome console verbosity form events work = .exited 0 lines messages) :
    ∃ answer, work.result = .ok answer ∧ answer.code = 0 := by
  unfold commandOutcome at exits
  dsimp only at exits
  split at exits
  · rename_i answer answered
    split at exits
    · rw [Outcome.exited.injEq] at exits
      exact ⟨answer, answered, exits.1⟩
    · exact absurd exits failureOutcome_ne_exited_zero
  · exact absurd exits (faultOutcome_ne_exited_zero (by decide))
  · exact absurd exits failureOutcome_ne_exited_zero

end Outcomes

/-- A run exits with code zero if its settings are read and its command answers with that code. -/
theorem session_of_exited_zero {lines messages : Text}
    (exits : (invocation.run disk).1 = .exited 0 lines messages) :
    ∃ settings form answer, (settingsOf disk invocation).result = .ok settings ∧
      (Session.run { invocation, settings, form, disk }).1.result = .ok answer ∧
      (invocation.run disk).2 = (Session.run { invocation, settings, form, disk }).2 := by
  simp only [Invocation.run, Invocation.runOn] at exits ⊢
  split at exits
  · exact absurd exits settingsOutcome_ne_exited_zero
  · cases exits
  · rename_i settings form configured _
    rcases answer_of_exited_zero exits with ⟨answer, answered, _⟩
    exact ⟨settings, form, answer, configured, answered, rfl⟩

/-- A run that makes a key module and succeeds writes the module of the tree that it reads. -/
theorem write_of_exited_zero {namespacePath : Given Text} {indent : Given Int} {rootClass : Option Text}
    {lines messages : Text}
    (command : invocation.command = .keys (some output) namespacePath indent rootClass)
    (exits : (invocation.run disk).1 = .exited 0 lines messages) :
    ∃ settings registry source tree options, invocation.Reads disk settings registry source tree ∧
      (KeyModule.write options tree disk output).1.result = .ok () ∧
      (invocation.run disk).2 = (KeyModule.write options tree disk output).2 := by
  rcases session_of_exited_zero exits with ⟨settings, form, answer, configured, answered, same⟩
  have chosen : (some output <|> settings.output) = some output := rfl
  simp only [Session.run, command, Session.keys, chosen] at answered same
  rcases Session.writing_cases _ _ _ with ⟨failure, _, failed, _⟩ | ⟨written, ready, ends⟩
  · exact absurd (failed.symm.trans answered) (by simp)
  rw [← same] at ready
  simp only [reported_bind_eq_ok, reported_pure, Except.ok.injEq] at ready
  rcases ready with ⟨options, _, ⟨registry, tree⟩, loaded, writes⟩
  rcases (Session.load_eq_ok configured).mp loaded with ⟨source, reads⟩
  have finished : written.result = .ok () := by
    rw [ends] at answered
    cases outcome : written.result with
    | error failure => simp [outcome, Except.mapError, Except.map] at answered
    | ok done => rfl
  exact ⟨settings, registry, source, tree, options, reads, by rw [writes, finished], by rw [writes]⟩

/-- What a run says of a key module, by whether it is stale. -/
def staleAnswer (output : FilePath) (stale : Bool) : Answer :=
  if stale then ⟨1, [output.display ++ " is stale; regenerate it with 'i18ntree keys'"]⟩
  else ⟨0, [output.display ++ " is up to date"]⟩

theorem Session.stale_eq_ok {session : Session} {stale : Bool}
    (loaded : session.load.result = .ok (registry, tree))
    (answered : isStale session.disk output tree = .ok stale) :
    (session.stale (some output)).result = .ok (staleAnswer output stale) := by
  have chosen : (some output <|> session.settings.output) = some output := rfl
  simp only [Session.stale, chosen, reported_bind_eq_ok, required_eq_ok, attempt_eq_ok,
    reported_ofExcept, mapError_eq_ok]
  refine ⟨output, rfl, (registry, tree), loaded, stale, answered, ?_⟩
  cases stale <;> rfl

/-- A run that asks for a key module compares the stamp with the hash of the tree that it reads. -/
theorem run_stale (command : invocation.command = .stale (some output)) (shown : invocation.form.isSome)
    (reads : invocation.Reads disk settings registry source tree) {hash : Text}
    (stamped : readStamp disk output = .ok (some hash)) :
    ∃ messages, (invocation.run disk).1 =
      if tree.sourceHash = hash then
        .exited 0 (linesText [output.display ++ " is up to date"]) messages
      else
        .exited 1 (linesText
          [output.display ++ " is stale; regenerate it with 'i18ntree keys'"]) messages := by
  rcases Option.isSome_iff_exists.mp shown with ⟨form, given⟩
  have loaded : (Session.load { invocation, settings, form, disk }).result = .ok (registry, tree) :=
    (Session.load_eq_ok reads.configured).mpr ⟨source, reads⟩
  have answered := Session.stale_eq_ok loaded (isStale_of_readStamp stamped tree)
  simp only [Invocation.run, Invocation.runOn, reads.configured, given, Session.run, command]
  rcases outcome_of_answer answered (print_accepting _) with ⟨messages, ends⟩
  refine ⟨messages, ?_⟩
  rw [ends]
  by_cases same : tree.sourceHash = hash
  · simp [staleAnswer, same]
  · simp [staleAnswer, same]

/-! ### Settings -/

/-- The settings of the file that an invocation names. -/
def fileSettings (disk : Disk) (path : Option FilePath) : Reported Failure Settings :=
  match path with
  | none => return .initial
  | some path => Settings.load disk path

theorem settingsOf_eq_ok :
    (settingsOf disk invocation).result = .ok settings ↔
      ∃ base, (fileSettings disk invocation.settings).result = .ok base ∧
        override invocation base = .ok settings := by
  rw [settingsOf]
  cases invocation.settings with
  | none => simp [fileSettings]
  | some path => simp [fileSettings]

omit [Host] in
theorem overrideIndent_keeps {given : Given Int} {base : Settings}
    (overridden : overrideIndent given base = .ok settings) :
    settings.languages = base.languages ∧ settings.source = base.source := by
  cases given with
  | absent =>
    cases overridden
    exact ⟨rfl, rfl⟩
  | nothing => cases overridden
  | value width =>
    simp only [overrideIndent, Settings.withIndent] at overridden
    split at overridden <;> cases overridden
    exact ⟨rfl, rfl⟩

omit [Host] in
theorem overrideNamespace_keeps {given : Given Text} {base : Settings}
    (overridden : overrideNamespace given base = .ok settings) :
    settings.languages = base.languages ∧ settings.source = base.source := by
  cases given with
  | nothing => cases overridden
  | absent | value =>
    cases overridden
    exact ⟨rfl, rfl⟩

omit [Host] in
/-- The options for a key module change neither the document nor the languages. -/
theorem override_keys {base : Settings} {namespacePath : Given Text} {indent : Given Int}
    {rootClass : Option Text}
    (command : invocation.command = .keys (some output) namespacePath indent rootClass)
    (overridden : override invocation base = .ok settings) :
    settings.languages = (invocation.languages.value? <|> base.languages) ∧
      settings.source = base.source := by
  simp only [override, command, bind_eq_ok] at overridden
  rcases overridden with ⟨indented, first, second⟩
  rcases overrideIndent_keeps first with ⟨languages, source⟩
  rcases overrideNamespace_keeps second with ⟨sameLanguages, sameSource⟩
  exact ⟨sameLanguages.trans languages, sameSource.trans source⟩

/-! ### Files that stay -/

section Files

variable {after : Disk} {content : Utf8.Bytes}

/-- The files that an invocation reads stand at other places than a key module. -/
structure Invocation.ApartFrom (invocation : Invocation) (settings : Settings)
    (source output : FilePath) (before after : Disk) : Prop where
  source : after.place source ≠ after.place output
  configuration : ∀ path ∈ invocation.settings, after.place path ≠ after.place output
  languages : ∀ path ∈ settings.languages, after.place path ≠ after.place output
  /-- No file of languages comes into reach through a directory that was made for the key module. -/
  reach : ∀ path ∈ settings.languages, after.isFile path = before.isFile path

theorem settings_load_of_read {path : FilePath} (same : after.read path = disk.read path) :
    Settings.load after path = Settings.load disk path := by
  rw [Settings.load, Settings.load, same]

theorem exists_read_of_settings_load {path : FilePath}
    (loaded : (Settings.load disk path).result = .ok settings) :
    ∃ content, disk.read path = .ok content := by
  rw [Settings.load, reported_bind_eq_ok] at loaded
  rcases loaded with ⟨content, reads, _⟩
  exact ⟨content, mapError_eq_ok.mp reads⟩

/-- The settings of a file that stays are read again. -/
theorem fileSettings_of_oneFileNew (replaced : OneFileNew disk after output content)
    {path : Option FilePath} (apart : ∀ given ∈ path, after.place given ≠ after.place output)
    (loaded : (fileSettings disk path).result = .ok settings) :
    (fileSettings after path).result = .ok settings := by
  cases path with
  | none => exact loaded
  | some given =>
    rcases exists_read_of_settings_load loaded with ⟨stored, reads⟩
    rw [fileSettings, settings_load_of_read (replaced.read_eq (apart given rfl) reads)]
    exact loaded

/-- The languages of a file that stays, or that is still missing, are loaded again. -/
theorem registry_of_oneFileNew (replaced : OneFileNew disk after output content)
    {path : Option FilePath} (apart : ∀ given ∈ path, after.place given ≠ after.place output)
    (reach : ∀ given ∈ path, after.isFile given = disk.isFile given)
    (loaded : (Registry.load disk path).result = .ok registry) :
    (Registry.load after path).result = .ok registry := by
  cases path with
  | none => exact loaded
  | some given =>
    rw [Registry.load, reported_bind_eq_ok] at loaded ⊢
    rcases loaded with ⟨isThere, found, loaded⟩
    rw [reported_ofExcept, ← reach given rfl] at found
    refine ⟨isThere, found, ?_⟩
    cases isThere with
    | false => exact loaded
    | true =>
      rw [reach given rfl, mapError_eq_ok] at found
      rcases isFile_eq_true.mp found with ⟨stored, reads⟩
      rw [if_pos rfl, replaced.read_eq (apart given rfl) reads]
      rwa [if_pos rfl] at loaded

/-- The settings of two invocations with the same files agree but for what a command changes. -/
theorem settingsOf_stale {made asked : Invocation} {namespacePath : Given Text} {indent : Given Int}
    {rootClass : Option Text}
    (makes : made.command = .keys (some output) namespacePath indent rootClass)
    (asks : asked.command = .stale (some output)) (sameSettings : asked.settings = made.settings)
    (sameLanguages : asked.languages = made.languages)
    (replaced : OneFileNew disk after output content)
    (apart : ∀ given ∈ made.settings, after.place given ≠ after.place output)
    (configured : (settingsOf disk made).result = .ok settings) :
    ∃ plain, (settingsOf after asked).result = .ok plain ∧ plain.languages = settings.languages ∧
      plain.source = settings.source := by
  rcases settingsOf_eq_ok.mp configured with ⟨base, loaded, overridden⟩
  rcases override_keys makes overridden with ⟨languages, source⟩
  refine ⟨{ base with languages := asked.languages.value? <|> base.languages }, ?_, ?_, ?_⟩
  · refine settingsOf_eq_ok.mpr ⟨base, ?_, ?_⟩
    · rw [sameSettings]
      exact fileSettings_of_oneFileNew replaced apart loaded
    · simp only [override, asks]
  · rw [languages, sameLanguages]
  · exact source.symm

/-- Whether two invocations read the same files in the same way. -/
structure Invocation.SameInputs (first second : Invocation) : Prop where
  source : first.source = second.source
  configuration : first.settings = second.settings
  languages : first.languages = second.languages

/-- After a key module is written apart from its inputs, the same tree is read. -/
theorem Invocation.Reads.after_keys {made asked : Invocation} {namespacePath : Given Text}
    {indent : Given Int} {rootClass : Option Text}
    (reads : made.Reads disk settings registry source tree)
    (makes : made.command = .keys (some output) namespacePath indent rootClass)
    (asks : asked.command = .stale (some output)) (same : asked.SameInputs made)
    (replaced : OneFileNew disk after output content)
    (apart : made.ApartFrom settings source output disk after) :
    ∃ plain, asked.Reads after plain registry source tree := by
  rcases settingsOf_stale makes asks same.configuration same.languages replaced apart.configuration
    reads.configured with ⟨plain, configured, languages, sources⟩
  refine ⟨plain, configured, ?_, ?_, ?_, ?_⟩
  · rw [same.languages]
    exact reads.given
  · rw [languages]
    exact registry_of_oneFileNew replaced apart.languages apart.reach reads.languages
  · rw [same.source, sources]
    exact reads.named
  · have document := reads.document
    rw [Document.load, reported_bind_eq_ok] at document ⊢
    rcases document with ⟨bytes, found, decoded⟩
    refine ⟨bytes, ?_, decoded⟩
    rw [reported_ofExcept, mapError_eq_ok] at found ⊢
    exact replaced.readable source bytes found apart.source

end Files

/-! ### The stamp and the document -/

/-- The stamp of a key module that is written is the hash of its tree, so the module is stale for exactly
the trees with another hash. A run that makes a module and succeeds has read a tree. While nothing but the
module is written, asking for it finds it up to date; and whenever the module is untouched and a document
is accepted, asking finds the module up to date exactly if the document has the hash of the tree. -/
theorem stale_iff_hash_differs :
    (∀ (options : Options) (tree : Tree) (disk : Disk) (path : FilePath), Hashed tree →
      (KeyModule.write options tree disk path).1.result = .ok () →
      readStamp (KeyModule.write options tree disk path).2 path = .ok (some tree.sourceHash) ∧
      ∀ other, isStale (KeyModule.write options tree disk path).2 path other =
        .ok (decide (other.sourceHash ≠ tree.sourceHash))) ∧
    (∀ (disk after : Disk) (making asking : List Text) (made asked : Invocation) (output : FilePath)
      (namespacePath : Given Text) (indent : Given Int) (rootClass : Option Text) (lines messages : Text),
      Invocation.read making = .ok made →
      made.command = .keys (some output) namespacePath indent rootClass →
      run making disk = (.exited 0 lines messages, after) →
      Invocation.read asking = .ok asked → asked.command = .stale (some output) → asked.form.isSome →
      ∃ settings registry source tree, made.Reads disk settings registry source tree ∧
        (asked.SameInputs made → made.ApartFrom settings source output disk after → ∃ messages,
          (run asking after).1 =
            .exited 0 (linesText [output.display ++ " is up to date"]) messages) ∧
        ∀ later plain others origin other, later.read output = after.read output →
          asked.Reads later plain others origin other → ∃ messages,
            (run asking later).1 =
              if other.sourceHash = tree.sourceHash then
                .exited 0 (linesText [output.display ++ " is up to date"]) messages
              else
                .exited 1 (linesText
                  [output.display ++ " is stale; regenerate it with 'i18ntree keys'"]) messages) := by
  constructor
  · intro options tree disk path hashed written
    have stamped := readStamp_write hashed written
    exact ⟨stamped, isStale_of_readStamp stamped⟩
  · intro disk after making asking made asked output namespacePath indent rootClass lines messages
      readsMaking makes makingRun readsAsking asks shown
    have making : made.run disk = (.exited 0 lines messages, after) := by
      rw [← makingRun, run, runOn, readsMaking, Invocation.run]
    have askingRun (later : Disk) : run asking later = asked.run later := by
      rw [run, runOn, readsAsking, Invocation.run]
    rcases write_of_exited_zero makes (congrArg Prod.fst making) with
      ⟨settings, registry, source, tree, options, reads, written, wrote⟩
    rw [making] at wrote
    dsimp only at wrote
    have stamped := readStamp_write (.ofFile reads.document) written
    rcases (allOrNothing_write options tree disk output).succeeded written with
      ⟨_, content, _, _, replaced⟩
    rw [← wrote] at stamped replaced
    refine ⟨settings, registry, source, tree, reads, ?_, ?_⟩
    · intro same apart
      rcases reads.after_keys makes asks same replaced apart with ⟨plain, again⟩
      rcases run_stale asks shown again stamped with ⟨messages, answer⟩
      rw [if_pos rfl, ← askingRun] at answer
      exact ⟨messages, answer⟩
    · intro later plain others origin other untouched accepted
      rw [askingRun]
      rw [← readStamp_congr untouched] at stamped
      exact run_stale asks shown accepted stamped

end Machine

section Example

open Host.Plain

/-- The invocation of a run that makes a key module in two classes. -/
def nestedKeys : Invocation where
  name := "keys"
  command := .keys (some (.ofText "gen/keys.py")) (.value "game.text") .absent (some defaultRootClass)
  source := some (.ofText "s.json")

/-- The invocation of a run that asks for that module. -/
def nestedStale : Invocation where
  name := "stale"
  command := .stale (some (.ofText "gen/keys.py"))
  source := some (.ofText "s.json")

/-- The disk after a run that makes that module. -/
def stampedDisk : Disk :=
  (run ["keys", "s.json", "-o", "gen/keys.py", "--namespace", "game.text"] keptDisk).2

/-- The same disk with another document in the place of the first one. -/
def editedDisk : Disk := stampedDisk.put (.ofText "s.json") (.file (Utf8.encode "[ ]"))

/-- The tree without nodes. -/
def bareTree : Tree := .make [] [] [] []

/-- A module has the hash of the forest that it was made of. The module of a document is up to date, until
the document gets a blank. -/
theorem stale_iff_hash_differs_nested :
    readStamp (KeyModule.write plainOptions bareTree keptDisk (.ofText "keys.py")).2
      (.ofText "keys.py") = .ok (some (Node.forestHash [])) ∧
    (∃ messages, (run ["stale", "s.json", "gen/keys.py"] stampedDisk).1 =
      .exited 0 (linesText ["gen/keys.py is up to date"]) messages) ∧
    ∃ messages, (run ["stale", "s.json", "gen/keys.py"] editedDisk).1 =
      .exited 1 (linesText ["gen/keys.py is stale; regenerate it with 'i18ntree keys'"]) messages := by
  have making : Invocation.read ["keys", "s.json", "-o", "gen/keys.py", "--namespace", "game.text"] =
      .ok nestedKeys := by
    decide +kernel
  have asking : Invocation.read ["stale", "s.json", "gen/keys.py"] = .ok nestedStale := by
    decide +kernel
  have makes : (run ["keys", "s.json", "-o", "gen/keys.py", "--namespace", "game.text"] keptDisk).1 =
      .exited 0 (linesText ["Wrote gen/keys.py"]) [] := by
    decide +kernel
  have untouched : editedDisk.read (.ofText "gen/keys.py") = stampedDisk.read (.ofText "gen/keys.py") := by
    decide +kernel
  have accepted : (Document.load (some .builtIn) editedDisk (.ofText "s.json")).result.toOption.isSome := by
    decide +kernel
  have differs : (Document.load (some .builtIn) editedDisk (.ofText "s.json")).result.toOption.map
      Tree.sourceHash ≠ (Document.load (some .builtIn) keptDisk (.ofText "s.json")).result.toOption.map
        Tree.sourceHash := by
    decide +kernel
  have apart : stampedDisk.place (.ofText "s.json") ≠ stampedDisk.place (.ofText "gen/keys.py") := by
    decide +kernel
  have written : (KeyModule.write plainOptions bareTree keptDisk (.ofText "keys.py")).1.result =
      .ok () := by
    decide +kernel
  rcases stale_iff_hash_differs with ⟨stamped, whole⟩
  rcases whole keptDisk stampedDisk _ _ nestedKeys nestedStale (.ofText "gen/keys.py") _ _ _ _ _ making rfl
    (Prod.ext makes rfl) asking rfl rfl with ⟨settings, registry, source, tree, reads, fresh, changed⟩
  obtain rfl : FilePath.ofText "s.json" = source := Option.some.inj reads.named
  have noLanguages : settings.languages = none := by
    rcases settingsOf_eq_ok.mp reads.configured with ⟨base, loaded, overridden⟩
    cases loaded
    exact (override_keys rfl overridden).1
  have builtIn : registry = .builtIn := by
    have loaded := reads.languages
    rw [noLanguages] at loaded
    exact (Except.ok.inj loaded).symm
  refine ⟨(stamped _ _ _ _ (.ofForest [] [] []) written).1, fresh ⟨rfl, rfl, rfl⟩
    ⟨apart, by simp [nestedKeys], by simp [noLanguages], by simp [noLanguages]⟩, ?_⟩
  cases document : (Document.load (some .builtIn) editedDisk (.ofText "s.json")).result with
  | error failure => simp [document, Except.toOption] at accepted
  | ok other =>
    have again : nestedStale.Reads editedDisk .initial .builtIn (.ofText "s.json") other :=
      ⟨rfl, by decide, rfl, rfl, document⟩
    have other_ne : other.sourceHash ≠ tree.sourceHash := by
      have first := reads.document
      rw [builtIn] at first
      simpa [document, first, Except.toOption] using differs
    rcases changed editedDisk _ _ _ other untouched again with ⟨messages, answer⟩
    rw [if_neg other_ne] at answer
    exact ⟨messages, answer⟩

end Example

end CommandLine

end Phrasebook
