import Phrasebook.Language.Locale
import Phrasebook.Lookup.Resolver

/-!
# Contexts

A context looks up texts in a current language, which is always one of its registry. Only the change to
another registered language changes a context. A handle names a key path and is resolved with the
context as it is then. A lazy context is made when it is first needed.
-/

namespace Phrasebook

/-- A tree, its languages and the current one. -/
structure Context where
  tree : Tree
  registry : Registry
  strict : Bool
  language : Language
  language_mem : language ∈ registry.languages

/-- A handle for the text at a key path. -/
structure Handle where
  key : Text
deriving DecidableEq, Repr

namespace Context

/-- The text in place of one without a key. -/
def noKey : Text := "No localization key specified!!!!!"

/-- The resolver of a context. -/
def resolver (context : Context) : Resolver :=
  .make context.tree (some context.registry) context.strict none

theorem mem_of_get {registry : Registry} {code : Text} {language : Language}
    (found : registry.get code = .ok language) : language ∈ registry.languages := by
  unfold Registry.get at found
  split at found
  · rename_i known
    cases found
    exact List.mem_of_find?_eq_some known
  · cases found

/-- Makes a context; without a code its language is the fallback. -/
def make (tree : Tree) (registry : Registry) (code : Option Text) (strict : Bool) :
    Except Problem Context :=
  match code with
  | none => .ok ⟨tree, registry, strict, registry.fallback, registry.fallback_mem⟩
  | some code =>
    match found : registry.get code with
    | .error problem => .error problem
    | .ok language => .ok ⟨tree, registry, strict, language, mem_of_get found⟩

/-- Makes a context in the language of a system's locale. -/
def ofSystem (tree : Tree) (registry : Registry) (system : Locale.System) (strict : Bool) :
    Reported Problem Context := do
  let language := registry.matchLocale system.locale?
  Reported.report (.languageSelected language.code)
  make tree registry (some language.code) strict

/-- Selects the language with a code. -/
def changeLanguage (context : Context) (code : Text) : Reported Problem Context :=
  match found : context.registry.get code with
  | .error problem => throw problem
  | .ok language => do
    Reported.report (.languageChanged code)
    return { context with language, language_mem := mem_of_get found }

/-- Looks up a text in the current language. An empty key path has a text of its own. -/
def resolve (context : Context) (key : Text) (values : Option Fields) : Reported Failure Text :=
  if key.isEmpty then
    if context.strict then throw (.problem (.keyNotFound key key)) else return noKey
  else context.resolver.resolve context.language.code key values

/-- The handles for the children of a handle's node. -/
def children (context : Context) (handle : Handle) : Except Problem (List Handle) := do
  let keys ← context.resolver.childKeys handle.key
  return keys.map fun key => ⟨KeyPath.join (some handle.key) key⟩

end Context

/-- A value that is made when it is first needed. -/
structure Lazy (α : Type) where
  made : Option α := none

namespace Lazy

variable {ε α : Type}

/-- The value, made now if there is none. A failure leaves it unmade. -/
def get (state : Lazy α) (make : Except ε α) : Reported ε α × Lazy α :=
  match state.made with
  | some value => (return value, state)
  | none =>
    match make with
    | .error failure => (throw failure, state)
    | .ok value =>
      (do
        Reported.report .contextBuilt
        return value, ⟨some value⟩)

/-- Forgets the value, so that the next need makes another one. -/
def reset (_ : Lazy α) : Lazy α := {}

end Lazy

end Phrasebook
