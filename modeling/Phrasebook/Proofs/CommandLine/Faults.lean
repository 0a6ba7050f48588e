import Phrasebook.Proofs.CommandLine.Stale

/-!
# What a command fails of

A command looks at its arguments, loads the languages and the document, and does its work. So it fails of an
argument, of the loading, or of what it does with the tree; an argument or a setting that is missing is a
misuse. Where it answers, the answer is a success but for a key module that is stale.
-/

namespace Phrasebook

open Outcome

namespace CommandLine

section Steps

variable {α : Type} {message : Text} {failure : Failure}

theorem attempt_eq_failure {step : Reported Failure α} :
    (attempt step).result = .error (.failure failure) ↔ step.result = .error failure := by
  simp [attempt]

theorem attempt_ne_usage {step : Reported Failure α} : (attempt step).result ≠ .error (.usage message) := by
  simp [attempt]

theorem required_ne_failure {value : Option α} :
    (required value message).result ≠ .error (.failure failure) := by
  cases value <;> simp [required]

theorem required_eq_usage {value : Option α} {said : Text} :
    (required value said).result = .error (.usage message) ↔ value = none ∧ said = message := by
  cases value <;> simp [required]

end Steps

namespace Session

variable [Host] {session : Session} {registry : Registry} {tree : Tree} {path : FilePath} {failure : Failure}
  {message : Text}

/-! ### Loading -/

/-- The path of the document, if there is one. -/
def document? (session : Session) : Option FilePath := session.invocation.source <|> session.settings.source

/-- The languages or the document cannot be loaded. -/
inductive LoadFails (session : Session) : Failure → Prop
  | languages {failure : Failure} (refused : session.registry.result = .error (.failure failure)) :
      LoadFails session failure
  | document {registry : Registry} {path : FilePath} {failure : Failure}
      (registered : session.registry.result = .ok registry) (named : session.document? = some path)
      (refused : (Document.load (some registry) session.disk path).result = .error failure) :
      LoadFails session failure

theorem registry_eq_failure :
    session.registry.result = .error (.failure failure) ↔
      (session.invocation.languages = .nothing ∧ failure = .emptyArgument .languages) ∨
        session.invocation.languages ≠ .nothing ∧
          (Registry.load session.disk session.settings.languages).result = .error failure := by
  rw [registry]
  split
  · rename_i nothing
    simp [empty, nothing, eq_comm]
  · rename_i given
    have notNothing : session.invocation.languages ≠ .nothing := given
    simp [attempt_eq_failure, notNothing]

theorem registry_ne_usage : session.registry.result ≠ .error (.usage message) := by
  rw [registry]
  split
  · simp [empty]
  · exact attempt_ne_usage

theorem treeWith_eq_ok :
    (session.treeWith registry).result = .ok tree ↔ ∃ path, session.document? = some path ∧
      (Document.load (some registry) session.disk path).result = .ok tree := by
  simp only [treeWith, source, reported_bind_eq_ok, required_eq_ok, attempt_eq_ok, document?]

theorem treeWith_eq_failure :
    (session.treeWith registry).result = .error (.failure failure) ↔ ∃ path, session.document? = some path ∧
      (Document.load (some registry) session.disk path).result = .error failure := by
  simp only [treeWith, source, reported_bind_eq_error, required_ne_failure, false_or, required_eq_ok,
    attempt_eq_failure, document?]

theorem treeWith_eq_usage :
    (∃ message, (session.treeWith registry).result = .error (.usage message)) ↔ session.document? = none := by
  simp [treeWith, source, required_eq_usage, attempt_ne_usage, document?]

theorem load_eq_failure :
    session.load.result = .error (.failure failure) ↔
      session.document?.isSome ∧ session.LoadFails failure := by
  simp only [load, source, reported_bind_eq_error, required_ne_failure, false_or, required_eq_ok,
    treeWith_eq_failure, reported_pure, reduceCtorEq, and_false, exists_false, or_false]
  -- The path of the document is asked for before the languages are loaded, and again after them.
  constructor
  · rintro ⟨path, given, refused | ⟨registry, registered, _, named, refused⟩⟩
    · exact ⟨Option.isSome_iff_exists.mpr ⟨path, given⟩, .languages refused⟩
    · exact ⟨Option.isSome_iff_exists.mpr ⟨path, given⟩, .document registered named refused⟩
  · rintro ⟨given, fails⟩
    rcases Option.isSome_iff_exists.mp given with ⟨path, given⟩
    refine ⟨path, given, ?_⟩
    cases fails with
    | languages refused => exact Or.inl refused
    | document registered named refused => exact Or.inr ⟨_, registered, _, named, refused⟩

theorem load_eq_ok_iff :
    session.load.result = .ok (registry, tree) ↔ session.registry.result = .ok registry ∧
      ∃ path, session.document? = some path ∧
        (Document.load (some registry) session.disk path).result = .ok tree := by
  simp only [load, source, reported_bind_eq_ok, required_eq_ok, reported_pure, Except.ok.injEq, Prod.mk.injEq,
    treeWith_eq_ok, document?]
  constructor
  · rintro ⟨_, _, _, registered, _, found, rfl, rfl⟩
    exact ⟨registered, found⟩
  · rintro ⟨registered, path, named, found⟩
    exact ⟨path, named, registry, registered, tree, ⟨path, named, found⟩, rfl, rfl⟩

theorem document_of_load (loaded : session.load.result = .ok (registry, tree)) :
    session.document?.isSome := by
  rcases load_eq_ok_iff.mp loaded with ⟨_, path, named, _⟩
  rw [named]
  rfl

theorem load_eq_usage :
    (∃ message, session.load.result = .error (.usage message)) ↔ session.document? = none := by
  simp only [load, source, reported_bind_eq_error, required_eq_usage, registry_ne_usage, false_or,
    reported_pure, reduceCtorEq, and_false, exists_false, or_false, document?]
  constructor
  · rintro ⟨message, ⟨absent, _⟩ | ⟨_, _, _, _, failed⟩⟩
    · exact absent
    · exact treeWith_eq_usage.mp ⟨message, failed⟩
  · intro absent
    exact ⟨_, Or.inl ⟨absent, rfl⟩⟩

/-! ### Commands -/

/-- The path of what a command makes or asks about, if there is one. -/
def output? (session : Session) : Option FilePath :=
  match session.invocation.command with
  | .keys output _ _ _ | .stale output => output <|> session.settings.output
  | .charset output _ _ => output <|> session.settings.charsetOutput
  | _ => none

section Output

omit [Host]

variable {output : Option FilePath} {namespacePath : Given Text} {indent : Given Int}
  {rootClass : Option Text} {numeric languageNames : Bool}

theorem output?_keys (command : session.invocation.command = .keys output namespacePath indent rootClass) :
    session.output? = (output <|> session.settings.output) := by
  rw [output?, command]

theorem output?_charset (command : session.invocation.command = .charset output numeric languageNames) :
    session.output? = (output <|> session.settings.charsetOutput) := by
  rw [output?, command]

theorem output?_stale (command : session.invocation.command = .stale output) :
    session.output? = (output <|> session.settings.output) := by
  rw [output?, command]

end Output

/-- The arguments that a command looks at first are in order. -/
def Prepared (session : Session) : Prop :=
  match session.invocation.command with
  | .keys _ _ _ rootClass =>
    session.output?.isSome ∧ ∃ options, (session.options rootClass).result = .ok options
  | .resolve _ _ pairs _ => ∃ values, (assignments pairs).result = .ok values
  | .stale _ => session.output?.isSome
  | _ => True

/-- Whether a command loads the languages before it looks for the document. -/
def loadsLanguagesFirst (session : Session) : Bool :=
  match session.invocation.command with
  | .charset _ _ languageNames => languageNames
  | _ => false

/-- A command gets as far as the loading of languages and document. -/
structure Ready (session : Session) : Prop where
  prepared : session.Prepared
  document : session.document?.isSome ∨ session.loadsLanguagesFirst

/-- Whether a command needs the path of a key module. -/
def needsOutput (session : Session) : Bool :=
  match session.invocation.command with
  | .keys _ _ _ _ | .stale _ => true
  | _ => false

/-- What a command needs is not given, or is not what it should be. -/
inductive Misused (session : Session) : Prop
  | output (needed : session.needsOutput) (absent : session.output? = none)
  | assignment {key language : Option Text} {pairs : List (Option Text)} {strict : Bool} {message : Text}
      (command : session.invocation.command = .resolve key language pairs strict)
      (refused : (assignments pairs).result = .error (.usage message))
  | document (prepared : session.Prepared) (absent : session.document? = none)
      (after : session.loadsLanguagesFirst → ∃ registry, session.registry.result = .ok registry)

/-- The character set that a command asks for. -/
def charsetWith (session : Session) (languageNames : Bool) (registry : Registry) : Charset :=
  { numeric := session.settings.includeNumeric, registry := if languageNames then some registry else none }

/-- The code of the language that a look-up asks for. -/
def codeOf (registry : Registry) : Option Text → Text
  | none | some [] => registry.fallback.code
  | some code => code

/-- The values of a look-up. -/
def valuesOf (pairs : List (Option Text)) : Work (Option Fields) :=
  if pairs.isEmpty then pure none else some <$> assignments pairs

/-- A command fails of what it does with a tree. -/
inductive Stops (session : Session) (registry : Registry) (tree : Tree) : Failure → Prop
  | keyModule {output : Option FilePath} {namespacePath : Given Text} {indent : Given Int}
      {rootClass : Option Text} {path : FilePath} {options : KeyModule.Options} {failure : Failure}
      (command : session.invocation.command = .keys output namespacePath indent rootClass)
      (chosen : session.output? = some path) (accepted : (session.options rootClass).result = .ok options)
      (failed : (KeyModule.write options tree session.disk path).1.result = .error failure) :
      Stops session registry tree failure
  | charset {output : Option FilePath} {numeric languageNames : Bool} {path : FilePath} {failure : Failure}
      (command : session.invocation.command = .charset output numeric languageNames)
      (chosen : session.output? = some path)
      (failed : ((session.charsetWith languageNames registry).write tree session.disk path).1.result =
        .error failure) : Stops session registry tree failure
  | lookUp {key language : Option Text} {pairs : List (Option Text)} {strict : Bool} {values : Option Fields}
      {failure : Failure} (command : session.invocation.command = .resolve key language pairs strict)
      (assigned : (valuesOf pairs).result = .ok values)
      (asked : key.isSome ∨ ¬registry.contains (codeOf registry language))
      (failed : ((Resolver.make tree (some registry) strict none).resolve (codeOf registry language)
        (key.getD nothingShown) values).result = .error failure) : Stops session registry tree failure
  | children {key : Text} {problem : Problem} (command : session.invocation.command = .children (some key))
      (failed : (Resolver.make tree (some registry) true none).childKeys key = .error problem) :
      Stops session registry tree (.problem problem)
  | noKey (command : (∃ language pairs strict,
        session.invocation.command = .resolve none language pairs strict ∧
          registry.contains (codeOf registry language)) ∨ session.invocation.command = .children none) :
      Stops session registry tree (.emptyArgument .key)
  | stamp {output : Option FilePath} {path : FilePath} {failure : Failure}
      (command : session.invocation.command = .stale output) (chosen : session.output? = some path)
      (failed : KeyModule.isStale session.disk path tree = .error failure) :
      Stops session registry tree failure

/-- A command fails of an argument, of the loading, or of what it does with the tree. -/
inductive Fails (session : Session) : Failure → Prop
  | options {output : Option FilePath} {namespacePath : Given Text} {indent : Given Int}
      {rootClass : Option Text} {failure : Failure}
      (command : session.invocation.command = .keys output namespacePath indent rootClass)
      (given : session.output?.isSome)
      (refused : (session.options rootClass).result = .error (.failure failure)) : Fails session failure
  | assignment {key language : Option Text} {pairs : List (Option Text)} {strict : Bool} {failure : Failure}
      (command : session.invocation.command = .resolve key language pairs strict)
      (refused : (assignments pairs).result = .error (.failure failure)) : Fails session failure
  | loading {failure : Failure} (ready : session.Ready) (failed : session.LoadFails failure) :
      Fails session failure
  | tree {registry : Registry} {tree : Tree} {failure : Failure} (ready : session.Ready)
      (loaded : session.load.result = .ok (registry, tree)) (stops : session.Stops registry tree failure) :
      Fails session failure

section Writing

omit [Host]

variable {before : Work (Reported Failure Unit × Disk)} {disk : Disk} {answer : Answer}

/-- What comes before a writing fails, or the writing does, or there is the answer. -/
theorem result_writing :
    (writing before disk answer).1.result = do
      let pair ← before.result
      pair.1.result.mapError CommandFailure.failure
      return answer := by
  rcases before with ⟨events, failure | ⟨⟨_, failure | done⟩, after⟩⟩ <;> rfl

theorem writing_eq_failure :
    (writing before disk answer).1.result = .error (.failure failure) ↔
      before.result = .error (.failure failure) ∨
        ∃ pair, before.result = .ok pair ∧ pair.1.result = .error failure := by
  simp [result_writing]

end Writing

section Failures

variable {output : Option FilePath} {rootClass key language : Option Text} {pairs : List (Option Text)}
  {languageNames strict : Bool}

theorem check_eq_failure :
    session.check.result = .error (.failure failure) ↔
      session.document?.isSome ∧ session.LoadFails failure := by
  simp only [check, reported_bind_eq_error, load_eq_failure, reported_pure, reduceCtorEq, and_false,
    exists_false, or_false]

theorem keys_eq_failure :
    (session.keys output rootClass).1.result = .error (.failure failure) ↔
      ∃ path, (output <|> session.settings.output) = some path ∧
        ((session.options rootClass).result = .error (.failure failure) ∨
          ∃ options, (session.options rootClass).result = .ok options ∧
            ((session.document?.isSome ∧ session.LoadFails failure) ∨
              ∃ registry tree, session.load.result = .ok (registry, tree) ∧
                (KeyModule.write options tree session.disk path).1.result = .error failure)) := by
  rw [keys]
  cases (output <|> session.settings.output) with
  | none => simp
  | some path =>
    simp only [writing_eq_failure, reported_bind_eq_error, reported_bind_eq_ok, reported_pure,
      load_eq_failure, Except.ok.injEq, reduceCtorEq, and_false, exists_false, or_false,
      Option.some.injEq, exists_eq_left']
    constructor
    · rintro ((refused | ⟨options, accepted, failed⟩) |
        ⟨_, ⟨options, accepted, ⟨registry, tree⟩, loaded, rfl⟩, failed⟩)
      · exact Or.inl refused
      · exact Or.inr ⟨options, accepted, Or.inl failed⟩
      · exact Or.inr ⟨options, accepted, Or.inr ⟨registry, tree, loaded, failed⟩⟩
    · rintro (refused | ⟨options, accepted, failed | ⟨registry, tree, loaded, failed⟩⟩)
      · exact Or.inl (Or.inl refused)
      · exact Or.inl (Or.inr ⟨options, accepted, failed⟩)
      · exact Or.inr ⟨_, ⟨options, accepted, _, loaded, rfl⟩, failed⟩

theorem charsetParts_eq_failure :
    (session.charsetParts languageNames).result = .error (.failure failure) ↔
      (session.document?.isSome ∨ languageNames) ∧ session.LoadFails failure := by
  cases languageNames with
  | false => simp [charsetParts, load_eq_failure]
  | true =>
    simp only [charsetParts, if_true, reported_bind_eq_error, treeWith_eq_failure, reported_pure,
      reduceCtorEq, and_false, exists_false, or_false, or_true, true_and]
    constructor
    · rintro (refused | ⟨registry, registered, path, named, refused⟩)
      · exact .languages refused
      · exact .document registered named refused
    · rintro (refused | ⟨registered, named, refused⟩)
      · exact Or.inl refused
      · exact Or.inr ⟨_, registered, _, named, refused⟩

theorem charsetParts_eq_ok {charset : Charset} :
    (session.charsetParts languageNames).result = .ok (charset, tree) ↔
      ∃ registry, session.load.result = .ok (registry, tree) ∧
        session.charsetWith languageNames registry = charset := by
  cases languageNames with
  | false => simp [charsetParts, charsetWith]
  | true =>
    simp only [charsetParts, charsetWith, if_true, reported_bind_eq_ok, reported_pure, Except.ok.injEq,
      Prod.mk.injEq, treeWith_eq_ok, load_eq_ok_iff]
    constructor
    · rintro ⟨registry, registered, _, found, rfl, rfl⟩
      exact ⟨registry, ⟨registered, found⟩, rfl⟩
    · rintro ⟨registry, ⟨registered, found⟩, rfl⟩
      exact ⟨registry, registered, tree, found, rfl, rfl⟩

theorem charset_eq_failure :
    (session.charset output languageNames).1.result = .error (.failure failure) ↔
      ((session.document?.isSome ∨ languageNames) ∧ session.LoadFails failure) ∨
        ∃ path, (output <|> session.settings.charsetOutput) = some path ∧
          ∃ registry tree, session.load.result = .ok (registry, tree) ∧
            ((session.charsetWith languageNames registry).write tree session.disk path).1.result =
              .error failure := by
  rw [charset]
  cases (output <|> session.settings.charsetOutput) with
  | none => simp [charsetParts_eq_failure]
  | some path =>
    simp only [writing_eq_failure, reported_bind_eq_error, reported_bind_eq_ok, reported_pure,
      charsetParts_eq_failure, Except.ok.injEq, reduceCtorEq, and_false, exists_false, or_false,
      Option.some.injEq, exists_eq_left', Prod.exists, charsetParts_eq_ok]
    apply or_congr_right
    constructor
    · rintro ⟨_, _, ⟨_, tree, ⟨registry, loaded, rfl⟩, written⟩, failed⟩
      rw [Prod.ext_iff] at written
      rcases written with ⟨rfl, _⟩
      exact ⟨registry, tree, loaded, failed⟩
    · rintro ⟨registry, tree, loaded, failed⟩
      exact ⟨_, _, ⟨_, tree, ⟨registry, loaded, rfl⟩, rfl⟩, failed⟩

omit [Host] in
theorem valuesOf_eq_error {cause : CommandFailure} :
    (valuesOf pairs).result = .error cause ↔ (assignments pairs).result = .error cause := by
  cases pairs with
  | nil => simp [valuesOf, assignments]
  | cons pair rest => simp [valuesOf]

omit [Host] in
theorem valuesOf_eq_ok {values : Option Fields} :
    (valuesOf pairs).result = .ok values ↔
      ∃ fields, (assignments pairs).result = .ok fields ∧
        values = if pairs.isEmpty then none else some fields := by
  cases pairs with
  | nil => simp [valuesOf, assignments, @eq_comm _ values]
  | cons pair rest => simp [valuesOf, @eq_comm _ values]

/-- A look-up takes its values, loads, and looks up the text unless the key path alone is missing. -/
theorem resolve_eq :
    session.resolve key language pairs strict = (do
      let values ← valuesOf pairs
      let (registry, tree) ← session.load
      if key.isNone && registry.contains (codeOf registry language) then empty .key
      else return { lines := [← attempt ((Resolver.make tree (some registry) strict none).resolve
        (codeOf registry language) (key.getD nothingShown) values)] }) := by
  cases pairs <;> rfl

theorem resolve_eq_failure :
    (session.resolve key language pairs strict).result = .error (.failure failure) ↔
      (assignments pairs).result = .error (.failure failure) ∨
        ∃ values, (valuesOf pairs).result = .ok values ∧
          ((session.document?.isSome ∧ session.LoadFails failure) ∨
            ∃ registry tree, session.load.result = .ok (registry, tree) ∧
              ((key = none ∧ registry.contains (codeOf registry language) ∧ failure = .emptyArgument .key) ∨
                (key.isSome ∨ ¬registry.contains (codeOf registry language)) ∧
                  ((Resolver.make tree (some registry) strict none).resolve (codeOf registry language)
                    (key.getD nothingShown) values).result = .error failure)) := by
  simp only [resolve_eq, reported_bind_eq_error, valuesOf_eq_error, load_eq_failure, Prod.exists]
  refine or_congr_right (exists_congr fun values => and_congr_right fun _ => or_congr_right ?_)
  refine exists_congr fun registry => exists_congr fun tree => and_congr_right fun _ => ?_
  cases key with
  | some path => simp [attempt_eq_failure]
  | none =>
    cases registry.contains (codeOf registry language) with
    | true => simp [empty, eq_comm]
    | false => simp [attempt_eq_failure]

theorem children_eq_failure :
    (session.children key).result = .error (.failure failure) ↔
      (session.document?.isSome ∧ session.LoadFails failure) ∨
        ∃ registry tree, session.load.result = .ok (registry, tree) ∧
          ((key = none ∧ failure = .emptyArgument .key) ∨ ∃ path problem, key = some path ∧
            (Resolver.make tree (some registry) true none).childKeys path = .error problem ∧
              failure = .problem problem) := by
  simp only [children, reported_bind_eq_error, load_eq_failure, Prod.exists]
  refine or_congr_right (exists_congr fun registry => exists_congr fun tree => and_congr_right fun _ => ?_)
  cases key with
  | none => simp [empty, eq_comm]
  | some key => simp [attempt_eq_failure, @eq_comm _ failure]

theorem stale_eq_failure :
    (session.stale output).result = .error (.failure failure) ↔
      ∃ path, (output <|> session.settings.output) = some path ∧
        ((session.document?.isSome ∧ session.LoadFails failure) ∨
          ∃ registry tree, session.load.result = .ok (registry, tree) ∧
            KeyModule.isStale session.disk path tree = .error failure) := by
  simp only [stale, reported_bind_eq_error, required_ne_failure, false_or, required_eq_ok, load_eq_failure,
    Prod.exists, attempt_eq_failure, reported_ofExcept, mapError_eq_error, id]
  refine exists_congr fun path => and_congr_right fun _ => or_congr_right ?_
  refine exists_congr fun registry => exists_congr fun tree => and_congr_right fun _ => ?_
  constructor
  · rintro (⟨_, failed, rfl⟩ | ⟨isStale, _, failed⟩)
    · exact failed
    · split at failed <;> cases failed
  · intro failed
    exact Or.inl ⟨_, failed, rfl⟩

theorem Fails.of_keys {namespacePath : Given Text} {indent : Given Int}
    (command : session.invocation.command = .keys output namespacePath indent rootClass)
    (failed : (session.keys output rootClass).1.result = .error (.failure failure)) :
    session.Fails failure := by
  rcases keys_eq_failure.mp failed with ⟨path, given, failed⟩
  have chosen : session.output? = some path := (output?_keys command).trans given
  rcases failed with refused | ⟨options, accepted, failed⟩
  · exact .options command (by rw [chosen]; rfl) refused
  have prepared : session.Prepared := by simp [Prepared, command, chosen, accepted]
  rcases failed with ⟨document, fails⟩ | ⟨registry, tree, loaded, written⟩
  · exact .loading ⟨prepared, Or.inl document⟩ fails
  · exact .tree ⟨prepared, Or.inl (document_of_load loaded)⟩ loaded
      (.keyModule command chosen accepted written)

theorem Fails.of_charset {numeric : Bool}
    (command : session.invocation.command = .charset output numeric languageNames)
    (failed : (session.charset output languageNames).1.result = .error (.failure failure)) :
    session.Fails failure := by
  have prepared : session.Prepared := by simp [Prepared, command]
  rcases charset_eq_failure.mp failed with ⟨document, fails⟩ | ⟨path, given, registry, tree, loaded, written⟩
  · exact .loading ⟨prepared, by simpa [loadsLanguagesFirst, command] using document⟩ fails
  · exact .tree ⟨prepared, Or.inl (document_of_load loaded)⟩ loaded
      (.charset command ((output?_charset command).trans given) written)

theorem Fails.of_resolve (command : session.invocation.command = .resolve key language pairs strict)
    (failed : (session.resolve key language pairs strict).result = .error (.failure failure)) :
    session.Fails failure := by
  rcases resolve_eq_failure.mp failed with refused | ⟨values, assigned, failed⟩
  · exact .assignment command refused
  have prepared : session.Prepared := by
    rcases valuesOf_eq_ok.mp assigned with ⟨fields, given, _⟩
    simp [Prepared, command, given]
  rcases failed with ⟨document, fails⟩ | ⟨registry, tree, loaded, failed⟩
  · exact .loading ⟨prepared, Or.inl document⟩ fails
  refine .tree ⟨prepared, Or.inl (document_of_load loaded)⟩ loaded ?_
  rcases failed with ⟨rfl, known, rfl⟩ | ⟨asked, failed⟩
  · exact .noKey (Or.inl ⟨language, pairs, strict, command, known⟩)
  · exact .lookUp command assigned asked failed

theorem Fails.of_children (command : session.invocation.command = .children key)
    (failed : (session.children key).result = .error (.failure failure)) : session.Fails failure := by
  have prepared : session.Prepared := by simp [Prepared, command]
  rcases children_eq_failure.mp failed with ⟨document, fails⟩ | ⟨registry, tree, loaded, failed⟩
  · exact .loading ⟨prepared, Or.inl document⟩ fails
  refine .tree ⟨prepared, Or.inl (document_of_load loaded)⟩ loaded ?_
  rcases failed with ⟨rfl, rfl⟩ | ⟨path, problem, rfl, unlisted, rfl⟩
  · exact .noKey (Or.inr command)
  · exact .children command unlisted

theorem Fails.of_stale (command : session.invocation.command = .stale output)
    (failed : (session.stale output).result = .error (.failure failure)) : session.Fails failure := by
  rcases stale_eq_failure.mp failed with ⟨path, given, failed⟩
  have chosen : session.output? = some path := (output?_stale command).trans given
  have prepared : session.Prepared := by simp [Prepared, command, chosen]
  rcases failed with ⟨document, fails⟩ | ⟨registry, tree, loaded, failed⟩
  · exact .loading ⟨prepared, Or.inl document⟩ fails
  · exact .tree ⟨prepared, Or.inl (document_of_load loaded)⟩ loaded (.stamp command chosen failed)

end Failures

/-- Where a command gets as far as the loading, it fails as that does. -/
theorem run_of_loadFails (ready : session.Ready) (fails : session.LoadFails failure) :
    session.run.1.result = .error (.failure failure) := by
  rcases ready with ⟨prepared, document⟩
  unfold Prepared at prepared
  unfold loadsLanguagesFirst at document
  rw [run]
  revert prepared document
  -- Only a character set with the names of languages comes to the loading without a document.
  cases command : session.invocation.command with
  | check =>
    intro _ document
    exact check_eq_failure.mpr ⟨document.resolve_right Bool.false_ne_true, fails⟩
  | keys output namespacePath indent rootClass =>
    rintro ⟨given, options, accepted⟩ document
    rcases Option.isSome_iff_exists.mp given with ⟨path, chosen⟩
    rw [output?_keys command] at chosen
    exact keys_eq_failure.mpr
      ⟨path, chosen, Or.inr ⟨options, accepted, Or.inl ⟨document.resolve_right Bool.false_ne_true, fails⟩⟩⟩
  | charset output numeric languageNames =>
    intro _ document
    exact charset_eq_failure.mpr (Or.inl ⟨document, fails⟩)
  | resolve key language pairs strict =>
    rintro ⟨fields, given⟩ document
    exact resolve_eq_failure.mpr (Or.inr ⟨_, valuesOf_eq_ok.mpr ⟨fields, given, rfl⟩,
      Or.inl ⟨document.resolve_right Bool.false_ne_true, fails⟩⟩)
  | children key =>
    intro _ document
    exact children_eq_failure.mpr (Or.inl ⟨document.resolve_right Bool.false_ne_true, fails⟩)
  | stale output =>
    intro given document
    rcases Option.isSome_iff_exists.mp given with ⟨path, chosen⟩
    rw [output?_stale command] at chosen
    exact stale_eq_failure.mpr
      ⟨path, chosen, Or.inl ⟨document.resolve_right Bool.false_ne_true, fails⟩⟩

theorem run_of_stops (prepared : session.Prepared) (loaded : session.load.result = .ok (registry, tree))
    (stops : session.Stops registry tree failure) : session.run.1.result = .error (.failure failure) := by
  rw [run]
  cases stops with
  | keyModule command chosen accepted failed =>
    rw [output?_keys command] at chosen
    rw [command]
    exact keys_eq_failure.mpr
      ⟨_, chosen, Or.inr ⟨_, accepted, Or.inr ⟨registry, tree, loaded, failed⟩⟩⟩
  | charset command chosen failed =>
    rw [output?_charset command] at chosen
    rw [command]
    exact charset_eq_failure.mpr (Or.inr ⟨_, chosen, registry, tree, loaded, failed⟩)
  | lookUp command assigned asked failed =>
    rw [command]
    exact resolve_eq_failure.mpr
      (Or.inr ⟨_, assigned, Or.inr ⟨registry, tree, loaded, Or.inr ⟨asked, failed⟩⟩⟩)
  | children command failed =>
    rw [command]
    exact children_eq_failure.mpr
      (Or.inr ⟨registry, tree, loaded, Or.inr ⟨_, _, rfl, failed, rfl⟩⟩)
  | noKey command =>
    rcases command with ⟨language, pairs, strict, command, known⟩ | command
    · simp only [Prepared, command] at prepared
      rcases prepared with ⟨fields, given⟩
      rw [command]
      exact resolve_eq_failure.mpr (Or.inr ⟨_, valuesOf_eq_ok.mpr ⟨fields, given, rfl⟩,
        Or.inr ⟨registry, tree, loaded, Or.inl ⟨rfl, known, rfl⟩⟩⟩)
    · rw [command]
      exact children_eq_failure.mpr (Or.inr ⟨registry, tree, loaded, Or.inl ⟨rfl, rfl⟩⟩)
  | stamp command chosen failed =>
    rw [output?_stale command] at chosen
    rw [command]
    exact stale_eq_failure.mpr ⟨_, chosen, Or.inr ⟨registry, tree, loaded, failed⟩⟩

/-- A command fails of an argument, of the loading, or of what it does with the tree, and of nothing else. -/
theorem run_eq_failure : session.run.1.result = .error (.failure failure) ↔ session.Fails failure := by
  constructor
  · rw [run]
    cases command : session.invocation.command with
    | check =>
      intro failed
      rcases check_eq_failure.mp failed with ⟨document, fails⟩
      exact .loading ⟨by simp [Prepared, command], Or.inl document⟩ fails
    | keys => exact .of_keys command
    | charset => exact .of_charset command
    | resolve => exact .of_resolve command
    | children => exact .of_children command
    | stale => exact .of_stale command
  · intro fails
    cases fails with
    | options command given refused =>
      rcases Option.isSome_iff_exists.mp given with ⟨path, chosen⟩
      rw [output?_keys command] at chosen
      rw [run, command]
      exact keys_eq_failure.mpr ⟨path, chosen, Or.inl refused⟩
    | assignment command refused =>
      rw [run, command]
      exact resolve_eq_failure.mpr (Or.inl refused)
    | loading ready failed => exact run_of_loadFails ready failed
    | tree ready loaded stops => exact run_of_stops ready.prepared loaded stops

/-! ### Misuse -/

section Misuse

variable {output : Option FilePath} {rootClass key language : Option Text} {pairs : List (Option Text)}
  {languageNames strict : Bool}

omit [Host] in
theorem options_ne_usage : (session.options rootClass).result ≠ .error (.usage message) := by
  unfold options
  dsimp only
  split
  · exact attempt_ne_usage
  · split <;> simp [empty]

omit [Host] in
theorem writing_eq_usage {before : Work (Reported Failure Unit × Disk)} {disk : Disk} {answer : Answer} :
    (writing before disk answer).1.result = .error (.usage message) ↔
      before.result = .error (.usage message) := by
  simp [result_writing]

theorem check_eq_usage :
    (∃ message, session.check.result = .error (.usage message)) ↔ session.document? = none := by
  simp [check, ← load_eq_usage]

theorem keys_eq_usage :
    (∃ message, (session.keys output rootClass).1.result = .error (.usage message)) ↔
      (output <|> session.settings.output) = none ∨
        (∃ options, (session.options rootClass).result = .ok options) ∧ session.document? = none := by
  rw [keys]
  cases (output <|> session.settings.output) with
  | none => simp
  | some path =>
    simp only [writing_eq_usage, reported_bind_eq_error, options_ne_usage, reported_pure, reduceCtorEq,
      and_false, exists_false, or_false, false_or, ← load_eq_usage]
    exact ⟨fun ⟨message, options, accepted, failed⟩ => ⟨⟨options, accepted⟩, message, failed⟩,
      fun ⟨⟨options, accepted⟩, message, failed⟩ => ⟨message, options, accepted, failed⟩⟩

theorem charsetParts_eq_usage :
    (∃ message, (session.charsetParts languageNames).result = .error (.usage message)) ↔
      session.document? = none ∧ (languageNames → ∃ registry, session.registry.result = .ok registry) := by
  cases languageNames with
  | false => simp [charsetParts, ← load_eq_usage]
  | true =>
    simp only [charsetParts, if_true, reported_bind_eq_error, registry_ne_usage, reported_pure, reduceCtorEq,
      and_false, exists_false, or_false, false_or, true_implies]
    constructor
    · rintro ⟨message, registry, registered, failed⟩
      exact ⟨treeWith_eq_usage.mp ⟨message, failed⟩, registry, registered⟩
    · rintro ⟨absent, registry, registered⟩
      rcases treeWith_eq_usage.mpr absent with ⟨message, failed⟩
      exact ⟨message, registry, registered, failed⟩

theorem charset_eq_usage :
    (∃ message, (session.charset output languageNames).1.result = .error (.usage message)) ↔
      session.document? = none ∧ (languageNames → ∃ registry, session.registry.result = .ok registry) := by
  rw [← charsetParts_eq_usage, charset]
  cases (output <|> session.settings.charsetOutput) with
  | none => simp
  | some path => simp [writing_eq_usage]

theorem resolve_eq_usage :
    (∃ message, (session.resolve key language pairs strict).result = .error (.usage message)) ↔
      (∃ message, (assignments pairs).result = .error (.usage message)) ∨
        (∃ values, (assignments pairs).result = .ok values) ∧ session.document? = none := by
  have last : ∀ registry tree values message, (if key.isNone && registry.contains (codeOf registry language)
      then empty .key
      else do
        return { lines := [← attempt ((Resolver.make tree (some registry) strict none).resolve
          (codeOf registry language) (key.getD nothingShown) values)] } : Work Answer).result ≠
      .error (.usage message) := by
    intro registry tree values message
    split
    · simp [empty]
    · simp [attempt_ne_usage]
  have values : (∃ values, (valuesOf pairs).result = .ok values) ↔
      ∃ values, (assignments pairs).result = .ok values := by
    simp [valuesOf_eq_ok]
  simp only [resolve_eq, reported_bind_eq_error, valuesOf_eq_error, last, and_false, exists_false, or_false,
    exists_or, ← values, ← load_eq_usage]
  exact or_congr_right
    ⟨fun ⟨message, values, assigned, failed⟩ => ⟨⟨values, assigned⟩, message, failed⟩,
      fun ⟨⟨values, assigned⟩, message, failed⟩ => ⟨message, values, assigned, failed⟩⟩

theorem children_eq_usage :
    (∃ message, (session.children key).result = .error (.usage message)) ↔ session.document? = none := by
  cases key <;> simp [children, empty, attempt_ne_usage, ← load_eq_usage]

theorem stale_eq_usage :
    (∃ message, (session.stale output).result = .error (.usage message)) ↔
      (output <|> session.settings.output) = none ∨ session.document? = none := by
  rw [stale]
  cases (output <|> session.settings.output) with
  | none => simp [required]
  | some path =>
    simp [required, attempt_ne_usage, ← load_eq_usage]

theorem misused_of_run {message : Text} (failed : session.run.1.result = .error (.usage message)) :
    session.Misused := by
  rw [run] at failed
  cases command : session.invocation.command with
  | check =>
    rw [command] at failed
    exact .document (by simp [Prepared, command]) (check_eq_usage.mp ⟨message, failed⟩)
      (by simp [loadsLanguagesFirst, command])
  | keys output namespacePath indent rootClass =>
    rw [command] at failed
    by_cases given : session.output? = none
    · exact .output (by simp [needsOutput, command]) given
    rcases keys_eq_usage.mp ⟨message, failed⟩ with unset | ⟨accepted, absent⟩
    · exact absurd ((output?_keys command).trans unset) given
    · exact .document (by simp [Prepared, command, accepted, Option.isSome_iff_ne_none, given]) absent
        (by simp [loadsLanguagesFirst, command])
  | charset output numeric languageNames =>
    rw [command] at failed
    rcases charset_eq_usage.mp ⟨message, failed⟩ with ⟨absent, after⟩
    exact .document (by simp [Prepared, command]) absent
      (by simpa [loadsLanguagesFirst, command] using after)
  | resolve key language pairs strict =>
    rw [command] at failed
    rcases resolve_eq_usage.mp ⟨message, failed⟩ with ⟨message, refused⟩ | ⟨assigned, absent⟩
    · exact .assignment command refused
    · exact .document (by simpa [Prepared, command] using assigned) absent
        (by simp [loadsLanguagesFirst, command])
  | children key =>
    rw [command] at failed
    exact .document (by simp [Prepared, command]) (children_eq_usage.mp ⟨message, failed⟩)
      (by simp [loadsLanguagesFirst, command])
  | stale output =>
    rw [command] at failed
    by_cases given : session.output? = none
    · exact .output (by simp [needsOutput, command]) given
    rcases stale_eq_usage.mp ⟨message, failed⟩ with unset | absent
    · exact absurd ((output?_stale command).trans unset) given
    · exact .document (by simp [Prepared, command, Option.isSome_iff_ne_none, given]) absent
        (by simp [loadsLanguagesFirst, command])

/-- Where all that a command looks at first is in order, it is misused if there is no document. -/
theorem run_of_no_document (prepared : session.Prepared) (absent : session.document? = none)
    (after : session.loadsLanguagesFirst → ∃ registry, session.registry.result = .ok registry) :
    ∃ message, session.run.1.result = .error (.usage message) := by
  unfold Prepared at prepared
  unfold loadsLanguagesFirst at after
  rw [run]
  revert prepared after
  cases command : session.invocation.command with
  | check => exact fun _ _ => check_eq_usage.mpr absent
  | keys => exact fun prepared _ => keys_eq_usage.mpr (Or.inr ⟨prepared.2, absent⟩)
  | charset => exact fun _ after => charset_eq_usage.mpr ⟨absent, after⟩
  | resolve => exact fun prepared _ => resolve_eq_usage.mpr (Or.inr ⟨prepared, absent⟩)
  | children => exact fun _ _ => children_eq_usage.mpr absent
  | stale => exact fun _ _ => stale_eq_usage.mpr (Or.inr absent)

/-- A command is misused if something that it needs is not given or cannot be used, and never else. -/
theorem run_eq_usage : (∃ message, session.run.1.result = .error (.usage message)) ↔ session.Misused := by
  constructor
  · rintro ⟨message, failed⟩
    exact misused_of_run failed
  · intro misused
    cases misused with
    | output needed absent =>
      unfold needsOutput at needed
      split at needed
      · rename_i command
        rw [output?_keys command] at absent
        rw [run, command]
        exact keys_eq_usage.mpr (Or.inl absent)
      · rename_i command
        rw [output?_stale command] at absent
        rw [run, command]
        exact stale_eq_usage.mpr (Or.inl absent)
      · cases needed
    | assignment command refused =>
      rw [run, command]
      exact resolve_eq_usage.mpr (Or.inl ⟨_, refused⟩)
    | document prepared absent after => exact run_of_no_document prepared absent after

end Misuse

/-! ### Answers -/

/-- A command finds a key module stale. -/
inductive FindsStale (session : Session) : Prop
  | stale {output : Option FilePath} {path : FilePath} {registry : Registry} {tree : Tree}
      (command : session.invocation.command = .stale output) (chosen : session.output? = some path)
      (loaded : session.load.result = .ok (registry, tree))
      (differs : KeyModule.isStale session.disk path tree = .ok true) : FindsStale session

section Answers

variable {output : Option FilePath} {rootClass key language : Option Text} {pairs : List (Option Text)}
  {languageNames strict : Bool} {answer : Answer}

omit [Host] in
theorem code_of_writing {before : Work (Reported Failure Unit × Disk)} {disk : Disk} {lines : List Text}
    (answered : (writing before disk { lines }).1.result = .ok answer) : answer.code = 0 := by
  simp only [result_writing, bind_eq_ok, pure_eq_ok] at answered
  rcases answered with ⟨_, _, _, _, rfl⟩
  rfl

theorem code_of_check (answered : session.check.result = .ok answer) : answer.code = 0 := by
  simp only [check, reported_bind_eq_ok, reported_pure, Except.ok.injEq] at answered
  rcases answered with ⟨_, _, rfl⟩
  rfl

theorem code_of_keys (answered : (session.keys output rootClass).1.result = .ok answer) :
    answer.code = 0 := by
  rw [keys] at answered
  split at answered
  · simp at answered
  · exact code_of_writing answered

theorem code_of_charset (answered : (session.charset output languageNames).1.result = .ok answer) :
    answer.code = 0 := by
  rw [charset] at answered
  split at answered
  · simp only [reported_bind_eq_ok, reported_pure, Except.ok.injEq] at answered
    rcases answered with ⟨_, _, rfl⟩
    rfl
  · exact code_of_writing answered

theorem code_of_resolve (answered : (session.resolve key language pairs strict).result = .ok answer) :
    answer.code = 0 := by
  simp only [resolve_eq, reported_bind_eq_ok] at answered
  rcases answered with ⟨values, _, ⟨registry, tree⟩, _, answered⟩
  split at answered
  · simp [empty] at answered
  · simp only [reported_bind_eq_ok, reported_pure, Except.ok.injEq] at answered
    rcases answered with ⟨_, _, rfl⟩
    rfl

theorem code_of_children (answered : (session.children key).result = .ok answer) : answer.code = 0 := by
  simp only [children, reported_bind_eq_ok] at answered
  rcases answered with ⟨⟨registry, tree⟩, _, answered⟩
  split at answered
  · simp [empty] at answered
  · simp only [reported_bind_eq_ok, reported_pure, Except.ok.injEq] at answered
    rcases answered with ⟨_, _, rfl⟩
    rfl

theorem stale_eq_ok_iff :
    (session.stale output).result = .ok answer ↔
      ∃ path, (output <|> session.settings.output) = some path ∧
        ∃ registry tree, session.load.result = .ok (registry, tree) ∧
          ∃ isStale, KeyModule.isStale session.disk path tree = .ok isStale ∧
            staleAnswer path isStale = answer := by
  have last : ∀ (path : FilePath) (isStale : Bool), (if isStale then
      return { code := 1, lines := [path.display ++ " is stale; regenerate it with 'i18ntree keys'"] }
      else return { lines := [path.display ++ " is up to date"] } : Work Answer).result = .ok answer ↔
      staleAnswer path isStale = answer := by
    intro path isStale
    cases isStale <;> simp [staleAnswer]
  simp only [stale, reported_bind_eq_ok, required_eq_ok, attempt_eq_ok, reported_ofExcept, mapError_eq_ok,
    last, Prod.exists]

/-- An answer has the code of a success, unless a key module is found stale. -/
theorem code_of_answer (answered : session.run.1.result = .ok answer) :
    answer.code = 0 ∨ answer.code = 1 ∧ session.FindsStale := by
  revert answered
  rw [run]
  cases command : session.invocation.command with
  | check => exact fun answered => Or.inl (code_of_check answered)
  | keys => exact fun answered => Or.inl (code_of_keys answered)
  | charset => exact fun answered => Or.inl (code_of_charset answered)
  | resolve => exact fun answered => Or.inl (code_of_resolve answered)
  | children => exact fun answered => Or.inl (code_of_children answered)
  | stale output =>
    intro answered
    rcases stale_eq_ok_iff.mp answered with ⟨path, given, registry, tree, loaded, isStale, found, rfl⟩
    cases isStale with
    | false => exact Or.inl rfl
    | true => exact Or.inr ⟨rfl, .stale command ((output?_stale command).trans given) loaded found⟩

theorem run_of_findsStale (stale : session.FindsStale) :
    ∃ answer, session.run.1.result = .ok answer ∧ answer.code = 1 := by
  rcases stale with ⟨command, chosen, loaded, differs⟩
  rw [output?_stale command] at chosen
  rw [run, command]
  exact ⟨_, stale_eq_ok_iff.mpr ⟨_, chosen, _, _, loaded, true, differs, rfl⟩, rfl⟩

/-- A command succeeds if it is not misused, does not fail, and finds nothing stale. -/
theorem succeeds_iff :
    (∃ answer, session.run.1.result = .ok answer ∧ answer.code = 0) ↔
      ¬session.Misused ∧ (∀ failure, ¬session.Fails failure) ∧ ¬session.FindsStale := by
  constructor
  · rintro ⟨answer, answered, zero⟩
    refine ⟨fun misused => ?_, fun failure fails => ?_, fun stale => ?_⟩
    · rcases run_eq_usage.mpr misused with ⟨message, refused⟩
      cases refused.symm.trans answered
    · cases (run_eq_failure.mpr fails).symm.trans answered
    · rcases run_of_findsStale stale with ⟨other, found, one⟩
      cases found.symm.trans answered
      omega
  · rintro ⟨used, works, fresh⟩
    cases ended : session.run.1.result with
    | ok answer =>
      refine ⟨answer, rfl, (code_of_answer ended).resolve_right ?_⟩
      rintro ⟨_, stale⟩
      exact fresh stale
    | error cause =>
      cases cause with
      | usage message => exact absurd (run_eq_usage.mp ⟨message, ended⟩) used
      | failure failure => exact absurd (run_eq_failure.mp ended) (works failure)

end Answers

end Session

end CommandLine

end Phrasebook
