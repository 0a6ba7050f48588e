import Phrasebook.Problem

/-!
# Events

What the library reports while it works. Operations that report something answer with their events in
order, and keep them when they fail.
-/

namespace Phrasebook

/-- How much an event matters. -/
inductive Level where
  | debug
  | info
  | warning
deriving DecidableEq, Repr

namespace Level

/-- The name of a level. -/
def name : Level → Text
  | debug => "DEBUG"
  | info => "INFO"
  | warning => "WARNING"

/-- The rank of a level. -/
def rank : Level → Nat
  | debug => 10
  | info => 20
  | warning => 30

end Level

/-- Something worth a report. -/
inductive Event where
  | titleCaseKey (keyPath : Text)
  | duplicateKey (keyPath : Text)
  | nodeRead (keyPath : Text)
  | treeRead (roots warnings : Nat)
  | sourceOpened (path : Text)
  | registryAbsent (path : Text)
  | registryRead (languages : Nat) (path : Text)
  | localeUnknown (code reason : Text)
  | fallbackUsed (keyPath language fallback : Text)
  | unresolved (keyPath : Text) (problem : Problem)
  | languageSelected (code : Text)
  | languageChanged (code : Text)
  | contextBuilt
  | fileWritten (characters : Nat) (path : Text)
  | moduleEmitted (nodes : Nat)
  | moduleWritten (path : Text)
  | charsetWritten (characters : Nat) (path : Text)
  | settingsAbsent (path : Text)
  | commandStarted (name : Text)
deriving DecidableEq, Repr

namespace Event

/-- The level of an event. -/
def level : Event → Level
  | titleCaseKey _ | duplicateKey _ | localeUnknown _ _ | fallbackUsed _ _ _ | unresolved _ _ =>
    .warning
  | sourceOpened _ | registryAbsent _ | moduleWritten _ | charsetWritten _ _ => .info
  | _ => .debug

/-- The part of the program that reports an event. -/
def source : Event → Text
  | titleCaseKey _ | duplicateKey _ | nodeRead _ | treeRead _ _ | sourceOpened _ =>
    "i18ntree.tree.parser"
  | registryAbsent _ | registryRead _ _ => "i18ntree.languages"
  | localeUnknown _ _ => "i18ntree.locale_utils"
  | fallbackUsed _ _ _ | unresolved _ _ => "i18ntree.runtime.resolver"
  | languageSelected _ | languageChanged _ | contextBuilt => "i18ntree.runtime.context"
  | fileWritten _ _ => "i18ntree.generation.output"
  | moduleEmitted _ | moduleWritten _ => "i18ntree.generation.keys"
  | charsetWritten _ _ => "i18ntree.generation.charset"
  | settingsAbsent _ => "i18ntree.config"
  | commandStarted _ => "i18ntree.cli"

/-- The wording of an event. -/
def message : Event → Text
  | titleCaseKey keyPath =>
    "A 'TitleCase' key (" ++ keyPath ++ ") was found. This causes trouble with key class " ++
      "generation. 'camelCase' is recommended."
  | duplicateKey keyPath => "Duplicate key '" ++ keyPath ++ "'; only the first one is addressable"
  | nodeRead keyPath => "Registered node: " ++ keyPath
  | treeRead roots warnings =>
    "Parsed resource tree: " ++ Numeral.natural roots ++ " root(s), " ++
      Numeral.natural warnings ++ " warning(s)"
  | sourceOpened path => "Parsing resource file " ++ path
  | registryAbsent path =>
    "Language configuration " ++ path ++ " not found, using built-in default"
  | registryRead languages path =>
    "Loaded " ++ Numeral.natural languages ++ " language(s) from " ++ path
  | localeUnknown code reason =>
    "Unknown locale '" ++ code ++ "': " ++ reason ++ ". Using the code as display name"
  | fallbackUsed keyPath language fallback =>
    "Key '" ++ keyPath ++ "' has no '" ++ language ++ "' text; using fallback language '" ++
      fallback ++ "'"
  | unresolved keyPath problem => "Could not resolve '" ++ keyPath ++ "': " ++ problem.message
  | languageSelected code => "Selected language '" ++ code ++ "' from system locale"
  | languageChanged code => "Language changed to '" ++ code ++ "'"
  | contextBuilt => "Constructed shared localization context"
  | fileWritten characters path =>
    "Wrote " ++ Numeral.natural characters ++ " characters to " ++ path
  | moduleEmitted nodes => "Emitted key classes for " ++ Numeral.natural nodes ++ " node(s)"
  | moduleWritten path => "Wrote key classes to " ++ path
  | charsetWritten characters path =>
    "Wrote " ++ Numeral.natural characters ++ " character(s) to " ++ path
  | settingsAbsent path => "No [tool.i18ntree] table in " ++ path ++ ", using defaults"
  | commandStarted name => "Running command " ++ name

/-- The line that reports an event. -/
def line (event : Event) : Text :=
  event.level.name ++ " " ++ event.source ++ ": " ++ event.message

end Event

/-- An answer or an error, with the events on the way to it. -/
structure Reported (ε α : Type) where
  events : List Event
  result : Except ε α

namespace Reported

variable {ε α β : Type}

/-- Goes on with an answer; an error ends the work and keeps the events so far. -/
def bind (first : Reported ε α) (next : α → Reported ε β) : Reported ε β :=
  match first.result with
  | .ok answer =>
    let second := next answer
    ⟨first.events ++ second.events, second.result⟩
  | .error failure => ⟨first.events, .error failure⟩

instance : Monad (Reported ε) where
  pure answer := ⟨[], .ok answer⟩
  bind := bind

instance : MonadExceptOf ε (Reported ε) where
  throw failure := ⟨[], .error failure⟩
  tryCatch first handle :=
    match first.result with
    | .ok answer => ⟨first.events, .ok answer⟩
    | .error failure =>
      let second := handle failure
      ⟨first.events ++ second.events, second.result⟩

instance : MonadLift (Except ε) (Reported ε) := ⟨fun result => ⟨[], result⟩⟩

/-- Reports an event. -/
def report (event : Event) : Reported ε Unit := ⟨[event], .ok ()⟩

/-- An answer or an error without events, with the error changed. -/
def ofExcept {ε' : Type} (change : ε → ε') (result : Except ε α) : Reported ε' α :=
  ⟨[], result.mapError change⟩

/-- Changes the error. -/
def mapError {ε' : Type} (change : ε → ε') (first : Reported ε α) : Reported ε' α :=
  ⟨first.events, first.result.mapError change⟩

end Reported

end Phrasebook
