import Phrasebook.Lookup.Resolver
import Phrasebook.Proofs.Outcome

/-!
# Strict look-ups

A strict look-up of a node that has a text in a registered language answers with this text.
-/

namespace Phrasebook.Resolver

open Outcome

variable {registry : Registry} {resolver : Resolver} {language keyPath stored : Text} {node : Node}

theorem checkLanguage_of_mem (registered : resolver.registry = some registry)
    (known : language ∈ registry.codes) : resolver.checkLanguage language = .ok () := by
  rcases List.mem_map.mp known with ⟨entry, member, rfl⟩
  rw [checkLanguage, registered]
  dsimp only
  cases found : registry.find? entry.code with
  | none => simpa using List.find?_eq_none.mp found entry member
  | some _ => simp [Registry.get, found, Except.map]

theorem checkLanguage_of_not_mem (registered : resolver.registry = some registry)
    (unknown : language ∉ registry.codes) :
    resolver.checkLanguage language = .error (.unknownCode language registry.codes) := by
  have absent : registry.find? language = none := by
    apply List.find?_eq_none.mpr
    intro entry member
    simpa using fun same : entry.code = language => unknown (List.mem_map.mpr ⟨entry, member, same⟩)
  rw [checkLanguage, registered]
  simp [Registry.get, absent, Except.map]

theorem nodeText_of_given (given : node.textFor language = some stored) :
    resolver.nodeText language keyPath node = pure stored := by
  rw [nodeText, given]

theorem storedText_of_found (known : resolver.checkLanguage language = .ok ())
    (found : resolver.findNode keyPath = .ok node) (given : node.textFor language = some stored) :
    resolver.storedText language keyPath = pure stored := by
  rw [storedText, known, found]
  exact nodeText_of_given given

theorem resolve_of_found (strict : resolver.strict)
    (known : resolver.checkLanguage language = .ok ())
    (found : resolver.findNode keyPath = .ok node) (given : node.textFor language = some stored) :
    resolver.resolve language keyPath none = pure (Template.unescapeNewlines stored) := by
  rw [resolve, if_pos strict, resolveStrictly, storedText_of_found known found given]
  rfl

theorem textFor_of_textless (textless : node.hasText = false) : node.textFor language = none := by
  have none : node.texts.entries = [] := by
    simpa [Node.hasText, LocalTexts.isEmpty] using textless
  rw [Node.textFor, LocalTexts.get?, none]
  rfl

theorem storedText_of_textless (known : resolver.checkLanguage language = .ok ())
    (found : resolver.findNode keyPath = .ok node) (textless : node.hasText = false) :
    resolver.storedText language keyPath = throw (.textNotFound keyPath language) := by
  rw [storedText, known, found]
  change resolver.nodeText language keyPath node = _
  rw [nodeText, textFor_of_textless textless, textFor_of_textless textless]

theorem resolve_of_textless (strict : resolver.strict) {values : Option Fields}
    (known : resolver.checkLanguage language = .ok ())
    (found : resolver.findNode keyPath = .ok node) (textless : node.hasText = false) :
    resolver.resolve language keyPath values =
      throw (.problem (.textNotFound keyPath language)) := by
  rw [resolve, if_pos strict, resolveStrictly, storedText_of_textless known found textless]
  rfl

theorem resolve_of_unknown (strict : resolver.strict) {values : Option Fields} {problem : Problem}
    (unknown : resolver.checkLanguage language = .error problem) :
    resolver.resolve language keyPath values = throw (.problem problem) := by
  rw [resolve, if_pos strict, resolveStrictly, storedText, unknown]
  rfl

end Phrasebook.Resolver
