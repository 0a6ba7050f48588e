import Phrasebook.Proofs.CommandLine.Faults
import Phrasebook.Proofs.Encodable
import Phrasebook.Proofs.Loading
import Phrasebook.Proofs.Lookup.Overflow

/-!
# Exit codes

A run exits with two for what is wrong with its arguments or settings, with one for what is wrong with
resources, files or the device of a stream or for a key module that is stale, and with zero else. A few inputs
and streams get past this: they end a run in a failure that has no exit code. All of them are listed here.
What a command does is settled before anything is printed, so the cases of the commands come first and those
of the streams after them.
-/

namespace Phrasebook

open Outcome

/-! ### Files -/

section Files

variable {disk : Disk} {path : FilePath} {tree : Tree} {failure : Failure} {text : Text}

theorem Failure.IsOfFile.isOfPath_iff (ofFile : failure.IsOfFile) :
    failure.isOfPath ↔ ¬failure.isOfResource := by
  rcases ofFile with ⟨fault, paths⟩ | ⟨fault, paths⟩ <;> simp [isOfPath, isOfResource]

theorem Failure.not_isOfResource_of_isOfPath (ofPath : failure.isOfPath) : ¬failure.isOfResource := by
  cases failure with
  | file fault | temporaryFile fault =>
    have same : fault.isOfPath = true := ofPath
    simp [isOfResource, same]
  | _ => cases ofPath

/-- A text that can be encoded is not written for a reason of its file alone. So it is only for its path that
the writing escapes. -/
theorem Disk.replace_eq_error (encodable : text.isEncodable) :
    (disk.replace path text).1.result = .error failure ∧ ¬failure.isOfResource ↔
      (disk.replace path text).1.result = .error failure ∧ failure.isOfPath :=
  and_congr_right fun failed => (isOfFile_of_isEncodable encodable failed).isOfPath_iff.symm

/-- A key module is not written because its nodes do not give one, or for a reason of its file. So it is only
for the number of blanks in a level and for its path that the writing escapes. -/
theorem KeyModule.write_eq_error {options : Options}
    (encodable : ∀ text, (emit options tree).result = .ok text → text.isEncodable) :
    (write options tree disk path).1.result = .error failure ∧ ¬failure.isOfResource ↔
      (indexLimit ≤ options.indentWidth ∧ failure = .countTooLarge) ∨
      ∃ text, (emit options tree).result = .ok text ∧
        (disk.replace path text).1.result = .error failure ∧ failure.isOfPath := by
  cases emitted : (emit options tree).result with
  | error given =>
    have failed : (write options tree disk path).1.result = .error given := by
      simp only [write, emitted]
    have refusal := emit_eq_error.mp emitted
    rw [failed]
    split at refusal
    · rename_i wide
      subst refusal
      constructor
      · rintro ⟨⟨⟩, _⟩
        exact Or.inl ⟨wide, rfl⟩
      · rintro (⟨_, rfl⟩ | ⟨_, ⟨⟩, _⟩)
        exact ⟨rfl, Bool.false_ne_true⟩
    · rename_i narrow
      rcases refusal with ⟨problem, _, rfl⟩
      constructor
      · rintro ⟨⟨⟩, unknown⟩
        exact absurd rfl unknown
      · rintro (⟨wide, _⟩ | ⟨_, ⟨⟩, _⟩)
        exact absurd wide narrow
  | ok text =>
    have narrow := (emit_eq_ok.mp emitted).1
    rw [(write_of_emit emitted).1, Disk.replace_eq_error (encodable text emitted)]
    simp [Nat.not_le.mpr narrow]

theorem KeyModule.isStale_eq_error :
    isStale disk path tree = .error failure ∧ ¬failure.isOfResource ↔
      ∃ content fault, disk.read path = .ok content ∧ stamp content = .error fault ∧
        failure = .undecodable fault := by
  simp only [isStale, readStamp, bind_eq_error, mapError_eq_error, mapError_eq_ok, pure_ne_error, and_false,
    exists_false, or_false]
  constructor
  · rintro ⟨⟨fault, unknown, rfl⟩ | ⟨isThere, found, failed⟩, unexpected⟩
    · rcases Registry.isFile_eq_error unknown with rfl
      exact absurd rfl unexpected
    cases isThere with
    | false => simp at failed
    | true =>
      rcases Disk.isFile_eq_true.mp found with ⟨content, reads⟩
      -- A file that is there can be read, so only its stamp is left to fail.
      simp only [if_true, reads, bind_eq_error, mapError_eq_error, mapError_eq_ok, reduceCtorEq, false_and,
        exists_false, false_or, Except.ok.injEq, exists_eq_left'] at failed
      rcases failed with ⟨fault, undecoded, rfl⟩
      exact ⟨content, fault, reads, undecoded, rfl⟩
  · rintro ⟨content, fault, reads, undecoded, rfl⟩
    refine ⟨Or.inr ⟨true, Disk.isFile_eq_true.mpr ⟨content, reads⟩, ?_⟩, Bool.false_ne_true⟩
    simp [reads, undecoded]

end Files

namespace CommandLine

namespace Session

variable [Host] {session : Session} {failure : Failure}

/-- An assignment gives a value to a name. -/
def IsAssignment (pair : Option Text) : Prop :=
  ∃ text first name value, pair = some text ∧ Text.cut '=' text = (first :: name, some value)

omit [Host] in
theorem assignments_eq_failure {pairs : List (Option Text)} :
    (assignments pairs).result = .error (.failure failure) ↔
      failure = .emptyArgument .assignment ∧
        ∃ before after, pairs = before ++ none :: after ∧ ∀ pair ∈ before, IsAssignment pair := by
  induction pairs with
  | nil => simp [assignments]
  | cons pair rest ih =>
    cases pair with
    | none =>
      simp only [assignments, empty, reported_throw, Except.error.injEq, CommandFailure.failure.injEq,
        eq_comm, iff_self_and]
      intro _
      exact ⟨[], rest, rfl, by simp⟩
    | some text =>
      rw [assignments]
      split
      · rename_i first name value divided
        simp only [reported_bind_eq_error, ih, reported_pure, reduceCtorEq, and_false, exists_false, or_false]
        refine and_congr_right fun _ => ?_
        constructor
        · rintro ⟨before, after, rfl, assigned⟩
          refine ⟨some text :: before, after, rfl, ?_⟩
          rw [List.forall_mem_cons]
          exact ⟨⟨text, first, name, value, rfl, divided⟩, assigned⟩
        · rintro ⟨_ | ⟨_, before⟩, after, split, assigned⟩
          · cases split
          · cases split
            exact ⟨before, after, rfl, (List.forall_mem_cons.mp assigned).2⟩
      · rename_i undivided
        simp only [reported_throw, Except.error.injEq, reduceCtorEq, false_iff, not_and]
        rintro _ ⟨_ | ⟨_, before⟩, after, split, assigned⟩
        · cases split
        · cases split
          rcases (List.forall_mem_cons.mp assigned).1 with ⟨_, first, name, value, same, divided⟩
          cases same
          exact undivided first name value divided

omit [Host] in
theorem texts_of_assignments {pairs : List (Option Text)} {fields : Fields}
    (assigned : (assignments pairs).result = .ok fields) :
    ∀ field ∈ fields, ∃ text, field.2 = .text text := by
  induction pairs generalizing fields with
  | nil =>
    cases assigned
    simp
  | cons pair rest ih =>
    cases pair with
    | none => simp [assignments, empty] at assigned
    | some text =>
      rw [assignments] at assigned
      split at assigned
      · simp only [reported_bind_eq_ok, reported_pure, Except.ok.injEq] at assigned
        rcases assigned with ⟨others, given, rfl⟩
        split
        · exact ih given
        · rw [List.forall_mem_cons]
          exact ⟨⟨_, rfl⟩, ih given⟩
      · simp at assigned

/-! ### Commands -/

omit [Host] in
theorem options_eq_ok {rootClass : Option Text} {options : KeyModule.Options} :
    (session.options rootClass).result = .ok options ↔ ∃ name, rootClass = some name ∧
      KeyModule.Options.make session.settings.namespacePath session.settings.indentWidth name =
        .ok options := by
  unfold Session.options
  cases rootClass with
  | none =>
    dsimp only
    split <;> simp [empty]
  | some name => simp [attempt_eq_ok]

omit [Host] in
/-- Options with a width are refused for a name in them, or for their number of classes. -/
theorem problem_of_make {namespacePath : Option Text} {width : Nat} {rootClass : Text} (positive : 0 < width)
    (failed : KeyModule.Options.make namespacePath width rootClass = .error failure) :
    ∃ problem, failure = .problem problem := by
  unfold KeyModule.Options.make at failed
  dsimp only at failed
  rw [if_neg (by omega)] at failed
  split at failed
  · cases failed
    exact ⟨_, rfl⟩
  · split at failed <;> cases failed
    exact ⟨_, rfl⟩

omit [Host] in
/-- Options are refused for a name in them, or there is no name for the class of all keys. -/
theorem options_eq_failure {rootClass : Option Text} :
    (session.options rootClass).result = .error (.failure failure) ∧ ¬failure.isOfResource ↔
      rootClass = none ∧ KeyModule.badName? (KeyModule.namespaceNames session.settings.namespacePath) = none ∧
        failure = .emptyArgument .rootClass := by
  cases rootClass with
  | none =>
    cases bad : KeyModule.badName? (KeyModule.namespaceNames session.settings.namespacePath) with
    | some name =>
      have refused : (session.options none).result = .error (.failure (.problem (.invalidIdentifier name
          (KeyModule.shownPath session.settings.namespacePath [])))) := by
        simp [options, bad]
      rw [refused]
      constructor
      · rintro ⟨⟨⟩, unexpected⟩
        exact absurd rfl unexpected
      · rintro ⟨_, ⟨⟩, _⟩
    | none =>
      have refused : (session.options none).result = .error (.failure (.emptyArgument .rootClass)) := by
        simp [options, bad, empty]
      rw [refused]
      constructor
      · rintro ⟨⟨⟩, _⟩
        exact ⟨rfl, rfl, rfl⟩
      · rintro ⟨_, _, rfl⟩
        exact ⟨rfl, Bool.false_ne_true⟩
  | some name =>
    refine iff_of_false ?_ (by simp)
    rintro ⟨failed, unexpected⟩
    rcases mapError_eq_error.mp (attempt_eq_failure.mp failed) with ⟨_, refused, rfl⟩
    rcases problem_of_make session.settings.indentWidth_pos refused with ⟨problem, rfl⟩
    exact unexpected rfl

/-! ### Escapes -/

/-- A text that a command writes to a file. -/
inductive Writes (session : Session) (registry : Registry) (tree : Tree) : Text → Prop
  | keyModule {output : Option FilePath} {namespacePath : Given Text} {indent : Given Int}
      {rootClass : Option Text} {options : KeyModule.Options} {text : Text}
      (command : session.invocation.command = .keys output namespacePath indent rootClass)
      (accepted : (session.options rootClass).result = .ok options)
      (emitted : (KeyModule.emit options tree).result = .ok text) : Writes session registry tree text
  | charset {output : Option FilePath} {numeric languageNames : Bool}
      (command : session.invocation.command = .charset output numeric languageNames) :
      Writes session registry tree ((session.charsetWith languageNames registry).characters tree)

/-- A command ends in a failure that has no exit code. -/
inductive Escapes (session : Session) : Failure → Prop
  | rootClass {output : Option FilePath} {namespacePath : Given Text} {indent : Given Int}
      (command : session.invocation.command = .keys output namespacePath indent none)
      (given : session.output?.isSome)
      (around : KeyModule.badName? (KeyModule.namespaceNames session.settings.namespacePath) = none) :
      Escapes session (.emptyArgument .rootClass)
  | assignment {key language : Option Text} {before after : List (Option Text)} {strict : Bool}
      (command : session.invocation.command = .resolve key language (before ++ none :: after) strict)
      (assigned : ∀ pair ∈ before, IsAssignment pair) : Escapes session (.emptyArgument .assignment)
  | languages (ready : session.Ready) (nothing : session.invocation.languages = .nothing) :
      Escapes session (.emptyArgument .languages)
  | registry {path : FilePath} {failure : Failure} (ready : session.Ready)
      (given : session.invocation.languages ≠ .nothing) (configured : session.settings.languages = some path)
      (escapes : Registry.Escapes session.disk path failure) : Escapes session failure
  | document {registry : Registry} {path : FilePath} {failure : Failure} (ready : session.Ready)
      (registered : session.registry.result = .ok registry) (named : session.document? = some path)
      (escapes : Document.Escapes session.disk path failure) : Escapes session failure
  | width {registry : Registry} {tree : Tree} {output : Option FilePath} {namespacePath : Given Text}
      {indent : Given Int} {rootClass : Option Text} {options : KeyModule.Options} (ready : session.Ready)
      (loaded : session.load.result = .ok (registry, tree))
      (command : session.invocation.command = .keys output namespacePath indent rootClass)
      (chosen : session.output?.isSome) (accepted : (session.options rootClass).result = .ok options)
      (wide : KeyModule.indexLimit ≤ options.indentWidth) : Escapes session .countTooLarge
  | writing {registry : Registry} {tree : Tree} {path : FilePath} {text : Text} {failure : Failure}
      (ready : session.Ready) (loaded : session.load.result = .ok (registry, tree))
      (chosen : session.output? = some path) (writes : session.Writes registry tree text)
      (failed : (session.disk.replace path text).1.result = .error failure) (ofPath : failure.isOfPath)
      (because : session.disk.RefusesNoPath → path.HasUntaken) : Escapes session failure
  | key {registry : Registry} {tree : Tree} (ready : session.Ready)
      (loaded : session.load.result = .ok (registry, tree))
      (command : (∃ language pairs strict,
        session.invocation.command = .resolve none language pairs strict ∧
          registry.contains (codeOf registry language)) ∨ session.invocation.command = .children none) :
      Escapes session (.emptyArgument .key)
  | stamp {registry : Registry} {tree : Tree} {output : Option FilePath} {path : FilePath}
      {content : Utf8.Bytes} {fault : Utf8.Fault} (ready : session.Ready)
      (loaded : session.load.result = .ok (registry, tree))
      (command : session.invocation.command = .stale output)
      (chosen : session.output? = some path) (read : session.disk.read path = .ok content)
      (undecoded : KeyModule.stamp content = .error fault) : Escapes session (.undecodable fault)

section Loaded

variable {registry : Registry} {tree : Tree}

theorem accepted_of_loaded (loaded : session.load.result = .ok (registry, tree)) : registry.Accepted := by
  rcases load_eq_ok_iff.mp loaded with ⟨registered, _⟩
  exact Registry.accepted_of_load (registry_eq_ok.mp registered).2

theorem isRead_of_loaded (loaded : session.load.result = .ok (registry, tree)) :
    Document.IsRead registry tree := by
  rcases load_eq_ok_iff.mp loaded with ⟨_, path, _, found⟩
  simp only [Document.load, reported_bind_eq_ok] at found
  rcases found with ⟨_, _, _, _, read⟩
  exact .ofBytes read

theorem isEncodable_of_loaded (loaded : session.load.result = .ok (registry, tree)) :
    Document.IsEncodable tree :=
  (isRead_of_loaded loaded).parsed.isEncodable (accepted_of_loaded loaded)

/-- What a command writes of a tree that it has loaded can be encoded. -/
theorem isEncodable_of_emitted {rootClass : Option Text} {options : KeyModule.Options}
    (loaded : session.load.result = .ok (registry, tree))
    (accepted : (session.options rootClass).result = .ok options) :
    ∀ text, (KeyModule.emit options tree).result = .ok text → text.isEncodable := by
  intro text emitted
  rcases options_eq_ok.mp accepted with ⟨_, _, made⟩
  exact KeyModule.isEncodable_emit made (isEncodable_of_loaded loaded) (isRead_of_loaded loaded).hashed
    emitted

theorem isEncodable_of_charset (loaded : session.load.result = .ok (registry, tree)) (languageNames : Bool) :
    ((session.charsetWith languageNames registry).characters tree).isEncodable := by
  refine Charset.isEncodable_characters (isEncodable_of_loaded loaded) ?_
  intro shown named
  cases languageNames with
  | false => cases named
  | true =>
    cases named
    exact accepted_of_loaded loaded

theorem escapes_of_stops (ready : session.Ready) (loaded : session.load.result = .ok (registry, tree))
    (stops : session.Stops registry tree failure) (unexpected : ¬failure.isOfResource) :
    session.Escapes failure := by
  cases stops with
  | keyModule command chosen accepted failed =>
    rcases (KeyModule.write_eq_error (isEncodable_of_emitted loaded accepted)).mp ⟨failed, unexpected⟩ with
      ⟨wide, rfl⟩ | ⟨text, emitted, failed, ofPath⟩
    · exact .width ready loaded command (by rw [chosen]; rfl) accepted wide
    · exact .writing ready loaded chosen (.keyModule command accepted emitted) failed ofPath
        (Disk.hasUntaken_of_replace · failed ofPath)
  | charset command chosen failed =>
    rw [Charset.result_write] at failed
    rcases (Disk.replace_eq_error (isEncodable_of_charset loaded _)).mp ⟨failed, unexpected⟩ with
      ⟨failed, ofPath⟩
    exact .writing ready loaded chosen (.charset command) failed ofPath
      (Disk.hasUntaken_of_replace · failed ofPath)
  | lookUp command assigned asked failed =>
    -- A value that is given on a command line is a text, and only a number can be too great for its token.
    exfalso
    rcases Resolver.resolve_failure_cases failed with ⟨problem, rfl⟩ | ⟨overflow, overflows⟩
    · exact unexpected rfl
    · rcases Resolver.number_of_overflowsAt overflows with ⟨given, isGiven, name, number, listed⟩
      rcases valuesOf_eq_ok.mp assigned with ⟨fields, read, rfl⟩
      split at isGiven
      · cases isGiven
      · cases isGiven
        rcases texts_of_assignments read _ listed with ⟨text, same⟩
        cases same
  | children command failed => exact absurd rfl unexpected
  | noKey command => exact .key ready loaded command
  | stamp command chosen failed =>
    rcases KeyModule.isStale_eq_error.mp ⟨failed, unexpected⟩ with ⟨content, fault, reads, undecoded, rfl⟩
    exact .stamp ready loaded command chosen reads undecoded

end Loaded

theorem escapes_of_loadFails (ready : session.Ready) (fails : session.LoadFails failure)
    (unexpected : ¬failure.isOfResource) : session.Escapes failure := by
  cases fails with
  | languages refused =>
    rcases registry_eq_failure.mp refused with ⟨nothing, rfl⟩ | ⟨given, refused⟩
    · exact .languages ready nothing
    · cases configured : session.settings.languages with
      | none =>
        rw [configured] at refused
        cases refused
      | some path =>
        rw [configured] at refused
        exact .registry ready given configured (Registry.load_eq_error.mp ⟨refused, unexpected⟩)
  | document registered named refused =>
    exact .document ready registered named (Document.load_eq_error.mp ⟨refused, unexpected⟩)

/-- A command fails in an unexpected way in the cases listed, and in no other. -/
theorem fails_eq_escapes : session.Fails failure ∧ ¬failure.isOfResource ↔ session.Escapes failure := by
  constructor
  · rintro ⟨fails, unexpected⟩
    cases fails with
    | options command given refused =>
      rcases options_eq_failure.mp ⟨refused, unexpected⟩ with ⟨rfl, around, rfl⟩
      exact .rootClass command given around
    | assignment command refused =>
      rcases assignments_eq_failure.mp refused with ⟨rfl, before, after, rfl, assigned⟩
      exact .assignment command assigned
    | loading ready failed => exact escapes_of_loadFails ready failed unexpected
    | tree ready loaded stops => exact escapes_of_stops ready loaded stops unexpected
  · intro escapes
    cases escapes with
    | rootClass command given around =>
      rcases options_eq_failure.mpr ⟨rfl, around, rfl⟩ with ⟨refused, unexpected⟩
      exact ⟨.options command given refused, unexpected⟩
    | assignment command assigned =>
      exact ⟨.assignment command (assignments_eq_failure.mpr ⟨rfl, _, _, rfl, assigned⟩), Bool.false_ne_true⟩
    | languages ready nothing =>
      exact ⟨.loading ready (.languages (registry_eq_failure.mpr (Or.inl ⟨nothing, rfl⟩))),
        Bool.false_ne_true⟩
    | registry ready given configured escapes =>
      rcases Registry.load_eq_error.mpr escapes with ⟨refused, unexpected⟩
      rw [← configured] at refused
      exact ⟨.loading ready (.languages (registry_eq_failure.mpr (Or.inr ⟨given, refused⟩))), unexpected⟩
    | document ready registered named escapes =>
      rcases Document.load_eq_error.mpr escapes with ⟨refused, unexpected⟩
      exact ⟨.loading ready (.document registered named refused), unexpected⟩
    | @width _ tree _ _ _ _ options ready loaded command chosen accepted wide =>
      rcases Option.isSome_iff_exists.mp chosen with ⟨path, chosen⟩
      have ends : (KeyModule.write options tree session.disk path).1.result = .error .countTooLarge ∧ _ :=
        (KeyModule.write_eq_error (isEncodable_of_emitted loaded accepted)).mpr (Or.inl ⟨wide, rfl⟩)
      exact ⟨.tree ready loaded (.keyModule command chosen accepted ends.1), ends.2⟩
    | writing ready loaded chosen writes failed ofPath because =>
      have unexpected := Failure.not_isOfResource_of_isOfPath ofPath
      cases writes with
      | keyModule command accepted emitted =>
        rw [← (KeyModule.write_of_emit emitted).1] at failed
        exact ⟨.tree ready loaded (.keyModule command chosen accepted failed), unexpected⟩
      | charset command =>
        rw [← Charset.result_write] at failed
        exact ⟨.tree ready loaded (.charset command chosen failed), unexpected⟩
    | key ready loaded command => exact ⟨.tree ready loaded (.noKey command), Bool.false_ne_true⟩
    | stamp ready loaded command chosen read undecoded =>
      rcases KeyModule.isStale_eq_error.mpr ⟨_, _, read, undecoded, rfl⟩ with ⟨failed, unexpected⟩
      exact ⟨.tree ready loaded (.stamp command chosen failed), unexpected⟩

end Session

/-! ### Runs -/

section Runs

variable [Host] {invocation : Invocation} {disk : Disk} {failure : Failure}

/-- A run stops for a fault that it tells, with an exit code: two for settings that are refused and for
arguments that are missing or cannot be used, and one for a known failure of a command. -/
inductive Invocation.Faults (invocation : Invocation) (disk : Disk) : Nat → Prop
  | misconfigured {failure : Failure} (refused : (settingsOf disk invocation).result = .error failure)
      (known : failure.isOfSettings) : Faults invocation disk 2
  | misused {settings : Settings} {form : OutputFormat}
      (configured : (settingsOf disk invocation).result = .ok settings) (given : invocation.form = some form)
      (misused : Session.Misused { invocation, settings, form, disk }) : Faults invocation disk 2
  | fails {settings : Settings} {form : OutputFormat} {failure : Failure}
      (configured : (settingsOf disk invocation).result = .ok settings) (given : invocation.form = some form)
      (fails : Session.Fails { invocation, settings, form, disk } failure) (known : failure.isOfResource) :
      Faults invocation disk 1

/-- A run has an answer to print, with an exit code: one for a key module that is stale, and zero else. -/
inductive Invocation.Answers (invocation : Invocation) (disk : Disk) : Nat → List Text → Prop
  | stale {settings : Settings} {form : OutputFormat} {answer : Answer}
      (configured : (settingsOf disk invocation).result = .ok settings) (given : invocation.form = some form)
      (answered : (Session.run { invocation, settings, form, disk }).1.result = .ok answer)
      (stale : Session.FindsStale { invocation, settings, form, disk }) :
      Answers invocation disk 1 answer.lines
  | succeeds {settings : Settings} {form : OutputFormat} {answer : Answer}
      (configured : (settingsOf disk invocation).result = .ok settings) (given : invocation.form = some form)
      (answered : (Session.run { invocation, settings, form, disk }).1.result = .ok answer)
      (used : ¬Session.Misused { invocation, settings, form, disk })
      (works : ∀ failure, ¬Session.Fails { invocation, settings, form, disk } failure)
      (fresh : ¬Session.FindsStale { invocation, settings, form, disk }) :
      Answers invocation disk 0 answer.lines

/-- A run ends in a failure that has no exit code, before there is anything to print. -/
inductive Invocation.Escapes (invocation : Invocation) (disk : Disk) : Failure → Prop
  | settings {path : FilePath} {failure : Failure} (configured : invocation.settings = some path)
      (escapes : Settings.Escapes disk path failure) : Escapes invocation disk failure
  | form {settings : Settings} (configured : (settingsOf disk invocation).result = .ok settings)
      (nothing : invocation.form = none) : Escapes invocation disk (.emptyArgument .form)
  | command {settings : Settings} {form : OutputFormat} {failure : Failure}
      (configured : (settingsOf disk invocation).result = .ok settings) (given : invocation.form = some form)
      (escapes : Session.Escapes { invocation, settings, form, disk } failure) :
      Escapes invocation disk failure

theorem settingsOf_eq_error :
    (settingsOf disk invocation).result = .error failure ∧ ¬failure.isOfSettings ↔
      ∃ path, invocation.settings = some path ∧ Settings.Escapes disk path failure := by
  have split : settingsOf disk invocation = (do
      let base ← fileSettings disk invocation.settings
      Reported.ofExcept Failure.settings (override invocation base)) := by
    rw [settingsOf]
    cases invocation.settings <;> rfl
  rw [split, reported_bind_eq_error]
  cases configured : invocation.settings with
  | none =>
    simp only [fileSettings, reported_pure, reduceCtorEq, reported_ofExcept, mapError_eq_error, false_or,
      false_and, exists_false, iff_false, not_and, not_not]
    rintro ⟨_, _, fault, _, rfl⟩
    rfl
  | some path =>
    simp only [fileSettings, Option.some.injEq, exists_eq_left', ← Settings.load_eq_error, reported_ofExcept,
      mapError_eq_error]
    constructor
    · rintro ⟨failed | ⟨_, _, fault, _, rfl⟩, unknown⟩
      · exact ⟨failed, unknown⟩
      · exact absurd rfl unknown
    · rintro ⟨failed, unknown⟩
      exact ⟨Or.inl failed, unknown⟩

/-- A run stops for a fault, has an answer, or escapes. -/
theorem faults_answers_or_escapes (invocation : Invocation) (disk : Disk) :
    (∃ code ≤ 2, invocation.Faults disk code) ∨ (∃ code ≤ 2, ∃ lines, invocation.Answers disk code lines) ∨
      ∃ failure, invocation.Escapes disk failure := by
  cases configured : (settingsOf disk invocation).result with
  | error failure =>
    by_cases known : failure.isOfSettings
    · exact Or.inl ⟨2, by decide, .misconfigured configured known⟩
    · rcases settingsOf_eq_error.mp ⟨configured, known⟩ with ⟨path, named, escapes⟩
      exact Or.inr (Or.inr ⟨failure, .settings named escapes⟩)
  | ok settings =>
    cases given : invocation.form with
    | none => exact Or.inr (Or.inr ⟨_, .form configured given⟩)
    | some form =>
      by_cases misused : Session.Misused { invocation, settings, form, disk }
      · exact Or.inl ⟨2, by decide, .misused configured given misused⟩
      by_cases fails : ∃ failure, Session.Fails { invocation, settings, form, disk } failure
      · rcases fails with ⟨failure, fails⟩
        by_cases known : failure.isOfResource
        · exact Or.inl ⟨1, by decide, .fails configured given fails known⟩
        · exact Or.inr (Or.inr
            ⟨failure, .command configured given (Session.fails_eq_escapes.mp ⟨fails, known⟩)⟩)
      by_cases stale : Session.FindsStale { invocation, settings, form, disk }
      · rcases Session.run_of_findsStale stale with ⟨answer, answered, _⟩
        exact Or.inr (Or.inl ⟨1, by decide, _, .stale configured given answered stale⟩)
      · have works := not_exists.mp fails
        rcases Session.succeeds_iff.mpr ⟨misused, works, stale⟩ with ⟨answer, answered, _⟩
        exact Or.inr (Or.inl ⟨0, by decide, _, .succeeds configured given answered misused works stale⟩)

/-! ### Outcomes -/

section Outcomes

omit [Host]

variable {console : Console} {verbosity : Verbosity} {form : OutputFormat} {events : List Event}
  {shown lines : List Text} {code : Nat}

/-- How a run ends that tells a fault with a code, after some lines of its answer: with that code, unless the
stream for messages is lost. -/
inductive Tells (console : Console) (code : Nat) : Outcome → Prop
  | heard {output messages : Text} (heard : console.lost? = none) :
      Tells console code (.exited code output messages)
  | lost {reason : Text} (lost : console.lost? = some reason) :
      Tells console code (.failed (.stream (.device reason)))

theorem Tells.exits_iff {outcome : Outcome} (tells : Tells console code outcome) {other : Nat} :
    (∃ output messages, outcome = .exited other output messages) ↔ console.lost? = none ∧ other = code := by
  cases tells with
  | heard heard => simp [heard, eq_comm]
  | lost lost => simp [lost]

theorem Tells.fails_iff {outcome : Outcome} (tells : Tells console code outcome) :
    outcome = .failed failure ↔
      ∃ reason, console.lost? = some reason ∧ failure = .stream (.device reason) := by
  cases tells with
  | heard heard => simp [heard]
  | lost lost => simp [lost, eq_comm]

theorem Tells.ends {outcome : Outcome} (tells : Tells console code outcome) :
    (∃ output messages, outcome = .exited code output messages) ∨ ∃ failure, outcome = .failed failure := by
  cases tells with
  | heard heard => exact Or.inl ⟨_, _, rfl⟩
  | lost lost => exact Or.inr ⟨_, rfl⟩

theorem tells_faultOutcome {logged : List Text} {line : Text} :
    Tells console code (faultOutcome console code shown logged line) := by
  unfold faultOutcome
  cases lost : console.lost? with
  | none => exact .heard lost
  | some reason => exact .lost lost

theorem tells_settingsOutcome (known : failure.isOfSettings) :
    Tells console 2 (settingsOutcome console invocation events failure) := by
  cases failure <;> first | exact tells_faultOutcome | exact absurd known Bool.false_ne_true

theorem settingsOutcome_of_unknown (unknown : ¬failure.isOfSettings) :
    settingsOutcome console invocation events failure = .failed failure := by
  cases failure <;> first | rfl | exact absurd rfl unknown

theorem tells_failureOutcome (known : failure.isOfResource) :
    Tells console 1 (failureOutcome console verbosity form events shown failure) := by
  cases failure with
  | problem => exact tells_faultOutcome
  | file fault | temporaryFile fault =>
    have taken : fault.isOfPath = false := by simpa [Failure.isOfResource] using known
    simp only [failureOutcome, taken]
    exact tells_faultOutcome
  | stream fault =>
    cases fault with
    | device => exact tells_faultOutcome
    | encoding => cases known
  | _ => cases known

theorem failureOutcome_of_unknown (unknown : ¬failure.isOfResource) :
    failureOutcome console verbosity form events shown failure = .failed failure := by
  cases failure with
  | problem => exact absurd rfl unknown
  | file fault | temporaryFile fault =>
    have untaken : fault.isOfPath = true := by simpa [Failure.isOfResource] using unknown
    simp only [failureOutcome, untaken, if_true]
  | stream fault =>
    cases fault with
    | device => exact absurd rfl unknown
    | encoding => rfl
  | _ => rfl

/-- How a run ends that prints an answer with a code. -/
inductive Prints (console : Console) (lines : List Text) (code : Nat) : Outcome → Prop
  | printed {output messages : Text} (taken : (console.print lines).2 = none) :
      Prints console lines code (.exited code output messages)
  | refused {reason : Text} {outcome : Outcome} (refused : (console.print lines).2 = some (.device reason))
      (tells : Tells console 1 outcome) : Prints console lines code outcome
  | unencodable {reason : Text} (refused : (console.print lines).2 = some (.encoding reason)) :
      Prints console lines code (.failed (.stream (.encoding reason)))

theorem Prints.exits_iff {outcome : Outcome} (prints : Prints console lines code outcome) {other : Nat} :
    (∃ output messages, outcome = .exited other output messages) ↔
      ((console.print lines).2 = none ∧ other = code) ∨
        ∃ reason, (console.print lines).2 = some (.device reason) ∧ console.lost? = none ∧ other = 1 := by
  cases prints with
  | printed taken => simp [taken, eq_comm]
  | refused refused tells => simp [refused, tells.exits_iff]
  | unencodable refused => simp [refused]

theorem Prints.fails_iff {outcome : Outcome} (prints : Prints console lines code outcome) :
    outcome = .failed failure ↔
      (∃ reason other, (console.print lines).2 = some (.device reason) ∧ console.lost? = some other ∧
        failure = .stream (.device other)) ∨
      ∃ reason, (console.print lines).2 = some (.encoding reason) ∧ failure = .stream (.encoding reason) := by
  cases prints with
  | printed taken => simp [taken]
  | refused refused tells => simp [refused, tells.fails_iff]
  | unencodable refused => simp [refused, eq_comm]

theorem prints_commandOutcome {work : Work Answer} {answer : Answer} (answered : work.result = .ok answer) :
    Prints console answer.lines answer.code (commandOutcome console verbosity form events work) := by
  simp only [commandOutcome, answered]
  cases printed : console.print answer.lines with
  | mk shown fault =>
    cases fault with
    | none => exact .printed (by rw [printed])
    | some fault =>
      cases fault with
      | device reason => exact .refused (by rw [printed]) (tells_failureOutcome rfl)
      | encoding reason => exact .unencodable (by rw [printed])

end Outcomes

section Consoles

variable {console : Console} {code : Nat} {lines : List Text}

theorem tells_of_faults (faults : invocation.Faults disk code) :
    Tells console code (invocation.runOn console disk).1 := by
  cases faults with
  | misconfigured refused known =>
    simp only [Invocation.runOn, refused]
    exact tells_settingsOutcome known
  | misused configured given misused =>
    rcases Session.run_eq_usage.mpr misused with ⟨message, refused⟩
    simp only [Invocation.runOn, configured, given, commandOutcome, refused]
    exact tells_faultOutcome
  | fails configured given fails known =>
    have failed := Session.run_eq_failure.mpr fails
    simp only [Invocation.runOn, configured, given, commandOutcome, failed]
    exact tells_failureOutcome known

theorem prints_of_answers (answers : invocation.Answers disk code lines) :
    Prints console lines code (invocation.runOn console disk).1 := by
  cases answers with
  | stale configured given answered stale =>
    rcases Session.run_of_findsStale stale with ⟨other, found, one⟩
    cases found.symm.trans answered
    simp only [Invocation.runOn, configured, given]
    rw [← one]
    exact prints_commandOutcome answered
  | succeeds configured given answered used works fresh =>
    have zero := (Session.code_of_answer answered).resolve_right fun stale => fresh stale.2
    simp only [Invocation.runOn, configured, given]
    rw [← zero]
    exact prints_commandOutcome answered

theorem runOn_of_escapes (escapes : invocation.Escapes disk failure) :
    (invocation.runOn console disk).1 = .failed failure := by
  cases escapes with
  | settings configured escapes =>
    rcases settingsOf_eq_error.mpr ⟨_, configured, escapes⟩ with ⟨refused, unknown⟩
    simp only [Invocation.runOn, refused]
    exact settingsOutcome_of_unknown unknown
  | form configured nothing => simp only [Invocation.runOn, configured, nothing]
  | command configured given escapes =>
    rcases Session.fails_eq_escapes.mpr escapes with ⟨fails, unknown⟩
    have failed := Session.run_eq_failure.mpr fails
    simp only [Invocation.runOn, configured, given, commandOutcome, failed]
    exact failureOutcome_of_unknown unknown

/-- A run on a console ends with an exit code: that of its fault, if it is heard, that of its answer, if all of
it is printed, and one if the stream for answers fails and this is heard. -/
inductive Invocation.Exits (console : Console) (invocation : Invocation) (disk : Disk) : Nat → Prop
  | fault {code : Nat} (faults : invocation.Faults disk code) (heard : console.lost? = none) :
      Exits console invocation disk code
  | answer {code : Nat} {lines : List Text} (answers : invocation.Answers disk code lines)
      (taken : (console.print lines).2 = none) : Exits console invocation disk code
  | unprinted {code : Nat} {lines : List Text} {reason : Text} (answers : invocation.Answers disk code lines)
      (refused : (console.print lines).2 = some (.device reason)) (heard : console.lost? = none) :
      Exits console invocation disk 1

/-- A run on a console ends in a failure without an exit code: it escapes before there is anything to print,
the stream for messages is lost when there is a fault to tell, or the encoding of the stream for answers lacks
a character. -/
inductive Invocation.EscapesOn (console : Console) (invocation : Invocation) (disk : Disk) : Failure → Prop
  | before {failure : Failure} (escapes : invocation.Escapes disk failure) :
      EscapesOn console invocation disk failure
  | untold {code : Nat} {reason : Text} (faults : invocation.Faults disk code)
      (lost : console.lost? = some reason) :
      EscapesOn console invocation disk (.stream (.device reason))
  | unprinted {code : Nat} {lines : List Text} {reason other : Text}
      (answers : invocation.Answers disk code lines)
      (refused : (console.print lines).2 = some (.device reason)) (lost : console.lost? = some other) :
      EscapesOn console invocation disk (.stream (.device other))
  | unencodable {code : Nat} {lines : List Text} {reason : Text} (answers : invocation.Answers disk code lines)
      (refused : (console.print lines).2 = some (.encoding reason)) :
      EscapesOn console invocation disk (.stream (.encoding reason))

theorem exits_iff :
    (∃ output messages, (invocation.runOn console disk).1 = .exited code output messages) ↔
      invocation.Exits console disk code := by
  constructor
  · intro ends
    rcases faults_answers_or_escapes invocation disk with
      ⟨given, _, faults⟩ | ⟨given, _, lines, answers⟩ | ⟨failure, escapes⟩
    · rcases (tells_of_faults faults).exits_iff.mp ends with ⟨heard, rfl⟩
      exact .fault faults heard
    · rcases (prints_of_answers answers).exits_iff.mp ends with ⟨taken, rfl⟩ | ⟨reason, refused, heard, rfl⟩
      · exact .answer answers taken
      · exact .unprinted answers refused heard
    · simp [runOn_of_escapes escapes] at ends
  · intro exits
    cases exits with
    | fault faults heard => exact (tells_of_faults faults).exits_iff.mpr ⟨heard, rfl⟩
    | answer answers taken => exact (prints_of_answers answers).exits_iff.mpr (Or.inl ⟨taken, rfl⟩)
    | unprinted answers refused heard =>
      exact (prints_of_answers answers).exits_iff.mpr (Or.inr ⟨_, refused, heard, rfl⟩)

theorem escapesOn_iff :
    (invocation.runOn console disk).1 = .failed failure ↔ invocation.EscapesOn console disk failure := by
  constructor
  · intro ends
    rcases faults_answers_or_escapes invocation disk with
      ⟨code, _, faults⟩ | ⟨code, _, lines, answers⟩ | ⟨other, escapes⟩
    · rcases (tells_of_faults faults).fails_iff.mp ends with ⟨reason, lost, rfl⟩
      exact .untold faults lost
    · rcases (prints_of_answers answers).fails_iff.mp ends with
        ⟨reason, other, refused, lost, rfl⟩ | ⟨reason, refused, rfl⟩
      · exact .unprinted answers refused lost
      · exact .unencodable answers refused
    · cases (runOn_of_escapes escapes).symm.trans ends
      exact .before escapes
  · intro escapes
    cases escapes with
    | before escapes => exact runOn_of_escapes escapes
    | untold faults lost => exact (tells_of_faults faults).fails_iff.mpr ⟨_, lost, rfl⟩
    | unprinted answers refused lost =>
      exact (prints_of_answers answers).fails_iff.mpr (Or.inl ⟨_, _, refused, lost, rfl⟩)
    | unencodable answers refused =>
      exact (prints_of_answers answers).fails_iff.mpr (Or.inr ⟨_, refused, rfl⟩)

/-- A run on a console ends with an exit code, or in a failure without one. -/
theorem exits_or_fails (console : Console) (invocation : Invocation) (disk : Disk) :
    (∃ code ≤ 2, ∃ output messages, (invocation.runOn console disk).1 = .exited code output messages) ∨
      ∃ failure, (invocation.runOn console disk).1 = .failed failure := by
  rcases faults_answers_or_escapes invocation disk with
    ⟨code, bound, faults⟩ | ⟨code, bound, lines, answers⟩ | ⟨failure, escapes⟩
  · exact (tells_of_faults faults).ends.imp_left fun exits => ⟨code, bound, exits⟩
  · have prints : Prints console lines code (invocation.runOn console disk).1 := prints_of_answers answers
    generalize (invocation.runOn console disk).1 = outcome at prints
    cases prints with
    | printed taken => exact Or.inl ⟨code, bound, _, _, rfl⟩
    | refused refused tells => exact tells.ends.imp_left fun exits => ⟨1, by decide, exits⟩
    | unencodable refused => exact Or.inr ⟨_, rfl⟩
  · exact Or.inr ⟨failure, runOn_of_escapes escapes⟩

end Consoles

/-- On any console, a run of a command line that is read ends with one of the exit codes, or in a failure
without one. It ends with two exactly if its settings are refused or its arguments lack something, with one
exactly if the command fails of a resource or a file or finds a key module stale or its answer meets a device
that fails, and with zero otherwise; and it escapes exactly for the settings, languages, documents, key
modules, widths, paths and arguments that are listed, for a fault that no stream takes, and for an answer with
a character that its stream lacks. -/
theorem exits_unless_escaping (console : Console) (arguments : List Text) (disk : Disk)
    (invocation : Invocation) (read : Invocation.read arguments = .ok invocation) :
    ((∃ code ≤ 2, ∃ output messages,
        (runOn console arguments disk).1 = .exited code output messages) ∨
      ∃ failure, (runOn console arguments disk).1 = .failed failure) ∧
    (∀ code, (∃ output messages, (runOn console arguments disk).1 = .exited code output messages) ↔
      invocation.Exits console disk code) ∧
    ∀ failure, (runOn console arguments disk).1 = .failed failure ↔
      invocation.EscapesOn console disk failure := by
  have same : runOn console arguments disk = invocation.runOn console disk := by rw [runOn, read]
  rw [same]
  exact ⟨exits_or_fails console invocation disk, fun code => exits_iff, fun failure => escapesOn_iff⟩

end Runs

section Example

open Host.Plain

/-- The invocation of a run that asks whether a key module is stale. -/
def staleInvocation : Invocation where
  name := "stale"
  command := .stale (some (.ofText "k.py"))
  source := some (.ofText "s.json")

/-- A disk with a document, and a key module that is no UTF-8. -/
def latinDisk : Disk := .ofFiles [(.ofText "s.json", Utf8.encode "[]"), (.ofText "k.py", [0xFF])]

/-- What is wrong with the bytes of that module. -/
def latinFault : Utf8.Fault := ⟨0, 1, 0xFF, .invalidStart⟩

/-- A key module that is no UTF-8 is neither stale nor refused. -/
theorem latin_module_escapes :
    Invocation.read ["stale", "s.json", "k.py"] = .ok staleInvocation ∧
      (run ["stale", "s.json", "k.py"] latinDisk).1 = .failed (.undecodable latinFault) := by
  decide +kernel

/-- A key module that is missing is stale; the one that is no UTF-8 escapes. -/
theorem exits_unless_escaping_missing :
    staleInvocation.Exits .accepting keptDisk 1 ∧
      staleInvocation.EscapesOn .accepting latinDisk (.undecodable latinFault) := by
  have read : Invocation.read ["stale", "s.json", "k.py"] = .ok staleInvocation := by decide +kernel
  have isStale : ∃ output messages,
      (run ["stale", "s.json", "k.py"] keptDisk).1 = .exited 1 output messages := by
    refine ⟨linesText ["k.py is stale; regenerate it with 'i18ntree keys'"], [], ?_⟩
    decide +kernel
  have undecoded : (run ["stale", "s.json", "k.py"] latinDisk).1 = .failed (.undecodable latinFault) := by
    decide +kernel
  rcases exits_unless_escaping .accepting ["stale", "s.json", "k.py"] keptDisk staleInvocation read with
    ⟨_, exits, _⟩
  rcases exits_unless_escaping .accepting ["stale", "s.json", "k.py"] latinDisk staleInvocation read with
    ⟨_, _, escapes⟩
  exact ⟨(exits 1).mp isStale, (escapes _).mp undecoded⟩

end Example

end CommandLine

end Phrasebook
