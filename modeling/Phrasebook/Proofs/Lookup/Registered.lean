import Phrasebook.Proofs.Lookup.Inverse
import Phrasebook.Proofs.Lookup.Strict

/-!
# Look-ups with the registry of a tree

In a tree that was read with a registry, a node has a text for every language of the registry or no text
at all. A strict look-up with this registry therefore never falls back: it answers with the node's own
text in the language, or a language is not registered, or the node has no texts.
-/

namespace Phrasebook

open Document

namespace Document.Parsed

variable {registry : Registry} {tree : Tree}

/-- A node has a text in a language exactly if it has texts and the language is registered. -/
theorem exists_textFor_iff (parsed : Parsed registry tree) (place : Place tree.roots)
    (language : Text) :
    (∃ stored, place.node.textFor language = some stored) ↔
      language ∈ registry.codes ∧ place.node.hasText := by
  constructor
  · rintro ⟨stored, given⟩
    rcases LocalTexts.mem_codes_of_get? given with ⟨coded, nonempty⟩
    have hasText : place.node.hasText := by
      simpa [Node.hasText, LocalTexts.isEmpty] using nonempty
    rw [parsed.codes_of_hasText place hasText] at coded
    exact ⟨coded, hasText⟩
  · rintro ⟨known, hasText⟩
    rw [← parsed.codes_of_hasText place hasText] at known
    exact LocalTexts.get?_of_mem known

end Document.Parsed

namespace Resolver

variable {registry : Registry} {resolver : Resolver} {language keyPath : Text} {node : Node}

section Registered

variable (strict : resolver.strict) (registered : resolver.registry = some registry)
variable (found : resolver.findNode keyPath = .ok node)
include strict registered found

/-- The node's own text is the answer, and nothing is reported. -/
theorem resolve_of_hasText (parsed : Parsed registry resolver.tree)
    (known : language ∈ registry.codes) (hasText : node.hasText) :
    ∃ stored, node.textFor language = some stored ∧
      resolver.resolve language keyPath none = pure (Template.unescapeNewlines stored) := by
  rcases findNode_eq_ok.mp found with ⟨place, _, rfl⟩
  rcases (parsed.exists_textFor_iff place language).mpr ⟨known, hasText⟩ with ⟨stored, given⟩
  exact ⟨stored, given, resolve_of_found strict (checkLanguage_of_mem registered known) found given⟩

theorem known_of_resolve {text : Text}
    (answered : (resolver.resolve language keyPath none).result = .ok text) :
    language ∈ registry.codes ∧ node.hasText := by
  by_contra refused
  rcases not_and_or.mp refused with absent | none
  · rw [resolve_of_unknown strict (checkLanguage_of_not_mem registered absent)] at answered
    cases answered
  · by_cases known : language ∈ registry.codes
    · rw [resolve_of_textless strict (checkLanguage_of_mem registered known) found
        (by simpa using none)] at answered
      cases answered
    · rw [resolve_of_unknown strict (checkLanguage_of_not_mem registered known)] at answered
      cases answered

end Registered

/-- A strict look-up with the registry that the tree was read with refuses a language that is not
registered, whatever the key path is. At a node it answers exactly if the language is registered and the
node has texts. The answer is then made from the node's own text in this language, and nothing is
reported. -/
theorem resolve_registered (parsed : Parsed registry resolver.tree) (strict : resolver.strict)
    (registered : resolver.registry = some registry) (language : Text) :
    (language ∉ registry.codes → ∀ keyPath values,
      resolver.resolve language keyPath values =
        throw (.problem (.unknownCode language registry.codes))) ∧
    ∀ keyPath node, resolver.findNode keyPath = .ok node →
      ((language ∈ registry.codes ∧ node.hasText) ↔
        ∃ stored, node.textFor language = some stored ∧
          resolver.resolve language keyPath none = pure (Template.unescapeNewlines stored)) ∧
      (∀ text, (resolver.resolve language keyPath none).result = .ok text →
        ∃ stored, node.textFor language = some stored ∧ text = Template.unescapeNewlines stored) ∧
      (language ∈ registry.codes → ¬node.hasText →
        resolver.resolve language keyPath none =
          throw (.problem (.textNotFound keyPath language))) := by
  constructor
  · intro absent keyPath values
    exact resolve_of_unknown strict (checkLanguage_of_not_mem registered absent)
  intro keyPath node found
  refine ⟨⟨?answers, ?answered⟩, ?own, ?textless⟩
  case answers =>
    rintro ⟨known, hasText⟩
    exact resolve_of_hasText strict registered found parsed known hasText
  case answered =>
    rintro ⟨stored, _, same⟩
    exact known_of_resolve strict registered found (congrArg Reported.result same)
  case own =>
    intro text answered
    rcases known_of_resolve strict registered found answered with ⟨known, hasText⟩
    rcases resolve_of_hasText strict registered found parsed known hasText with
      ⟨stored, given, same⟩
    rw [same] at answered
    exact ⟨stored, given, (Except.ok.inj answered).symm⟩
  case textless =>
    intro known none
    exact resolve_of_textless strict (checkLanguage_of_mem registered known) found (by simpa using none)

/-! A branch without texts, and below it a leaf with a break that is escaped. -/

/-- The forest of a document with these two nodes. -/
def greetingForest : List Node :=
  [.branch "menu" .empty [.leaf "hello" (leafTexts "Hello,\\nworld")]]

/-- The tree of that document. -/
def greetingTree : Tree :=
  .make greetingForest Registry.builtIn.codes "0" (forestWarnings greetingForest)

theorem parsed_greeting : Parsed Registry.builtIn greetingTree := by
  have distinct := codes_nodup Registry.builtIn
  have leaf := head_of_readEntry distinct ⟨rfl, by decide⟩
    (show readEntry _ _ "menu.hello" (leafFields "hello" "Hello,\\nworld") =
      .ok ⟨_, _, leafTexts "Hello,\\nworld", none⟩ from rfl)
  have branch := head_of_readEntry distinct ⟨rfl, by decide⟩
    (show readEntry _ _ "menu" (branchFields "menu" (leafFields "hello" "Hello,\\nworld")) =
      .ok ⟨_, _, .empty, some (.list _)⟩ from rfl)
  exact .of_translates "0" ⟨_, rfl, .cons (.branch branch rfl (.cons (.leaf leaf (Or.inl rfl)) .nil)) .nil⟩

/-- A strict resolver of that tree. -/
def greetingResolver : Resolver := .make greetingTree (some Registry.builtIn) true none

theorem resolve_registered_greeting :
    greetingResolver.resolve "en" "menu.hello" none = pure (.ofString "Hello,\nworld") ∧
      greetingResolver.resolve "de" "menu.hello" none =
        throw (.problem (.unknownCode "de" ["ja", "en"])) ∧
      greetingResolver.resolve "en" "menu" none =
        throw (.problem (.textNotFound "menu" "en")) := by
  have leafFound : greetingResolver.findNode "menu.hello" =
      .ok (.leaf "hello" (leafTexts "Hello,\\nworld")) := rfl
  have branchFound : greetingResolver.findNode "menu" =
      .ok (.branch "menu" .empty [.leaf "hello" (leafTexts "Hello,\\nworld")]) := rfl
  have parsed : Parsed Registry.builtIn greetingResolver.tree := parsed_greeting
  have registered := resolve_registered parsed rfl rfl
  rcases registered "en" with ⟨_, atNode⟩
  rcases (atNode _ _ leafFound).1.mp ⟨by decide, by decide⟩ with ⟨stored, given, same⟩
  cases given
  refine ⟨same, (registered "de").1 (by decide) _ _, ?_⟩
  exact (atNode _ _ branchFound).2.2 (by decide) (by decide)

end Resolver

end Phrasebook
