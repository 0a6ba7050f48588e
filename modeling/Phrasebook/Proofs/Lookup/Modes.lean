import Phrasebook.Proofs.Outcome
import Phrasebook.Lookup.Resolver

/-!
# Modes of look-ups

A strict look-up fails with its problem, a collecting one answers with a problem beside a text, and a
permissive one reports the problem and answers with that text. All three end in the same way: each way a
strict look-up can end stands here beside what the collecting look-up makes of it.
-/

namespace Phrasebook

open Outcome

namespace Problem

/-- Whether a problem is that of a token and its value. -/
def isOfToken : Problem → Bool
  | substitutionMissing _ _ | substitutionInvalid _ _ => true
  | _ => false

end Problem

namespace Resolver

variable {resolver : Resolver} {language keyPath : Text} {values : Option Fields}

/-- The text at a key path with its tokens replaced, if values are given for them. -/
def completed (keyPath text : Text) : Option Fields → Except Failure Text
  | none => .ok text
  | some values => substitute keyPath text values

/-- What a collecting look-up makes of an end: a problem comes beside a text in the place of the answer. -/
def collected (inPlace : Text) : Except Failure Text → Except Failure (Text × Option Problem)
  | .ok text => .ok (text, none)
  | .error (.problem problem) => .ok (inPlace, some problem)
  | .error failure => .error failure

section Collected

variable {inPlace text : Text} {ending : Except Failure Text} {problem : Problem} {failure : Failure}

theorem collected_eq_error :
    collected inPlace ending = .error failure ↔
      ending = .error failure ∧ ∀ problem, failure ≠ .problem problem := by
  rcases ending with (_ | _) | _ <;> simp [collected]
  all_goals grind

end Collected

theorem resolveStrictly_of_error {problem : Problem}
    (missing : (resolver.storedText language keyPath).result = .error problem) :
    resolver.resolveStrictly language keyPath values =
      ⟨(resolver.storedText language keyPath).events, .error (.problem problem)⟩ := by
  simp only [resolveStrictly, bind, Reported.bind, Reported.mapError, missing, Except.mapError]

theorem resolveStrictly_of_ok {stored : Text}
    (found : (resolver.storedText language keyPath).result = .ok stored) :
    resolver.resolveStrictly language keyPath values =
      ⟨(resolver.storedText language keyPath).events,
        completed keyPath (Template.unescapeNewlines stored) values⟩ := by
  simp only [resolveStrictly, bind, Reported.bind, Reported.mapError, found, Except.mapError]
  cases values <;> simp only [pure, completed, List.append_nil]
  exact congrArg (Reported.mk · _) (List.append_nil _)

theorem resolveWithProblem_of_error {problem : Problem}
    (missing : (resolver.storedText language keyPath).result = .error problem) :
    resolver.resolveWithProblem language keyPath values =
      ⟨(resolver.storedText language keyPath).events,
        collected (notLocalized keyPath) (.error (.problem problem))⟩ := by
  simp only [resolveWithProblem, missing, collected]

theorem resolveWithProblem_of_ok {stored : Text}
    (found : (resolver.storedText language keyPath).result = .ok stored) :
    resolver.resolveWithProblem language keyPath values =
      ⟨(resolver.storedText language keyPath).events,
        collected (Template.unescapeNewlines stored)
          (completed keyPath (Template.unescapeNewlines stored) values)⟩ := by
  simp only [resolveWithProblem, found]
  cases values with
  | none => rfl
  | some values =>
    simp only [completed]
    rcases substitute keyPath (Template.unescapeNewlines stored) values with (_ | _) | _ <;> rfl

theorem resolve_of_strict (strict : resolver.strict) :
    resolver.resolve language keyPath values = resolver.resolveStrictly language keyPath values := by
  rw [resolve, if_pos strict]

/-- A permissive look-up answers with the text of the collecting one and reports its problem. -/
theorem resolve_of_permissive (permissive : resolver.strict = false) :
    (resolver.resolve language keyPath values).result =
        (resolver.resolveWithProblem language keyPath values).result.map Prod.fst ∧
      ∀ text problem,
        (resolver.resolveWithProblem language keyPath values).result = .ok (text, problem) →
        (resolver.resolve language keyPath values).events =
          (resolver.resolveWithProblem language keyPath values).events ++
            problem.toList.map (.unresolved keyPath) := by
  rw [resolve, if_neg (by simp [permissive])]
  rcases resolver.resolveWithProblem language keyPath values with
    ⟨events, failure | ⟨text, _ | problem⟩⟩
  · exact ⟨rfl, nofun⟩
  · refine ⟨rfl, ?_⟩
    rintro _ _ ⟨⟩
    rfl
  · refine ⟨rfl, ?_⟩
    rintro _ _ ⟨⟩
    rfl

end Resolver

end Phrasebook
