import Phrasebook.Proofs.Lookup.Modes
import Phrasebook.Proofs.Template.Overflow

/-!
# Look-ups that overflow

Collecting and permissive look-ups are made not to fail. They do fail where replacing the tokens of a
found text overflows, because an overflow is no problem of a token, and they fail nowhere else.
-/

namespace Phrasebook.Resolver

open Outcome

variable {resolver : Resolver} {language keyPath : Text} {values : Option Fields}

/-- Tokens are replaced, or a token is refused, or a number overflows. -/
theorem substitute_cases (keyPath template : Text) (values : Fields) :
    (∃ text, substitute keyPath template values = .ok text) ∨
    (∃ problem, substitute keyPath template values = .error (.problem problem) ∧
      problem.isOfToken) ∨
    ∃ overflow, substitute keyPath template values = .error (.overflow overflow) ∧
      Template.Overflows template values overflow := by
  unfold substitute
  cases replaced : Template.substitute template values with
  | ok text => exact Or.inl ⟨text, rfl⟩
  | error failure =>
    right
    cases failure with
    | invalid fault => exact Or.inl ⟨_, rfl, rfl⟩
    | missing name => exact Or.inl ⟨_, rfl, rfl⟩
    | overflow overflow =>
      exact Or.inr ⟨overflow, rfl, Template.substitute_eq_overflow.mp replaced⟩

theorem substitute_eq_overflow {template : Text} {values : Fields} {overflow : Template.Overflow} :
    substitute keyPath template values = .error (.overflow overflow) ↔
      Template.Overflows template values overflow := by
  rw [← Template.substitute_eq_overflow, substitute, mapError_eq_error]
  constructor
  · rintro ⟨_ | _ | _, replaced, same⟩ <;> cases same
    exact replaced
  · intro replaced
    exact ⟨_, replaced, rfl⟩

/-- Replacing the tokens of the text at a key path overflows. -/
def OverflowsAt (resolver : Resolver) (language keyPath : Text) (values : Option Fields)
    (overflow : Template.Overflow) : Prop :=
  ∃ stored given, (resolver.storedText language keyPath).result = .ok stored ∧
    values = some given ∧ Template.Overflows (Template.unescapeNewlines stored) given overflow

theorem completed_eq_error {text : Text} {failure : Failure} :
    (completed keyPath text values = .error failure ∧ ∀ problem, failure ≠ .problem problem) ↔
      ∃ given overflow, values = some given ∧ Template.Overflows text given overflow ∧
        failure = .overflow overflow := by
  cases values with
  | none => simp [completed]
  | some given =>
    simp only [completed, Option.some.injEq, exists_and_left, exists_eq_left']
    constructor
    · rintro ⟨failed, noProblem⟩
      rcases substitute_cases keyPath text given with ⟨_, same⟩ | ⟨problem, same, _⟩ | ⟨_, same, exceeds⟩
      · rw [same] at failed
        cases failed
      · rw [same] at failed
        cases failed
        exact absurd rfl (noProblem problem)
      · rw [same] at failed
        cases failed
        exact ⟨_, exceeds, rfl⟩
    · rintro ⟨overflow, exceeds, rfl⟩
      refine ⟨substitute_eq_overflow.mpr exceeds, ?_⟩
      intro problem same
      cases same

theorem resolveWithProblem_eq_error {failure : Failure} :
    (resolver.resolveWithProblem language keyPath values).result = .error failure ↔
      ∃ overflow, resolver.OverflowsAt language keyPath values overflow ∧
        failure = .overflow overflow := by
  unfold OverflowsAt
  cases stored : (resolver.storedText language keyPath).result with
  | error problem =>
    rw [resolveWithProblem_of_error stored]
    simp [collected]
  | ok found =>
    rw [resolveWithProblem_of_ok stored, collected_eq_error, completed_eq_error]
    simp only [Except.ok.injEq]
    constructor
    · rintro ⟨given, overflow, rfl, exceeds, rfl⟩
      exact ⟨overflow, ⟨found, given, rfl, rfl, exceeds⟩, rfl⟩
    · rintro ⟨overflow, ⟨_, given, rfl, rfl, exceeds⟩, rfl⟩
      exact ⟨given, overflow, rfl, exceeds, rfl⟩

/-- A number that does not fit is among the values. -/
theorem number_of_overflowsAt {overflow : Template.Overflow}
    (overflows : resolver.OverflowsAt language keyPath values overflow) :
    ∃ given ∈ values, ∃ name number, (name, Datum.int number) ∈ given := by
  rcases overflows with ⟨stored, given, _, rfl, _, token, _, _, _, unfit⟩
  rcases unfit.unfit with ⟨number, _, found, _⟩
  rcases List.lookup_eq_some_iff.mp found with ⟨before, after, rfl, _⟩
  exact ⟨_, rfl, token.name, number, by simp⟩

/-- A look-up fails with a problem, unless a number overflows. -/
theorem resolve_failure_cases {failure : Failure}
    (failed : (resolver.resolve language keyPath values).result = .error failure) :
    (∃ problem, failure = .problem problem) ∨
      ∃ overflow, resolver.OverflowsAt language keyPath values overflow := by
  cases mode : resolver.strict with
  | true =>
    rw [resolve_of_strict mode] at failed
    cases stored : (resolver.storedText language keyPath).result with
    | error problem =>
      rw [resolveStrictly_of_error stored] at failed
      cases failed
      exact Or.inl ⟨problem, rfl⟩
    | ok found =>
      rw [resolveStrictly_of_ok stored] at failed
      by_cases isProblem : ∃ problem, failure = .problem problem
      · exact Or.inl isProblem
      · rcases completed_eq_error.mp ⟨failed, fun problem same => isProblem ⟨problem, same⟩⟩ with
          ⟨given, overflow, rfl, exceeds, _⟩
        exact Or.inr ⟨overflow, found, given, stored, rfl, exceeds⟩
  | false =>
    rw [(resolve_of_permissive mode).1] at failed
    cases collecting : (resolver.resolveWithProblem language keyPath values).result with
    | ok answer => simp [collecting, Except.map] at failed
    | error cause =>
      rcases resolveWithProblem_eq_error.mp collecting with ⟨overflow, exceeds, _⟩
      exact Or.inr ⟨overflow, exceeds⟩

/-- Replacing tokens answers or refuses a token unless it overflows, and collecting and permissive
look-ups answer unless the text that they find overflows. -/
theorem answers_unless_overflow (tree : Tree) (registry : Option Registry) (fallback : Option Text)
    (strict : Bool) (language keyPath : Text) (values : Option Fields) :
    (∀ template given,
      (∃ text, substitute keyPath template given = .ok text) ∨
      (∃ problem, substitute keyPath template given = .error (.problem problem) ∧
        problem.isOfToken) ∨
      ∃ overflow, substitute keyPath template given = .error (.overflow overflow)) ∧
    (∀ template given overflow,
      substitute keyPath template given = .error (.overflow overflow) ↔
        Template.Overflows template given overflow) ∧
    (∀ failure,
      ((make tree registry strict fallback).resolveWithProblem language keyPath values).result =
          .error failure ↔
        ∃ overflow, (make tree registry strict fallback).OverflowsAt language keyPath values overflow ∧
          failure = .overflow overflow) ∧
    (∀ failure,
      ((make tree registry false fallback).resolve language keyPath values).result =
          .error failure ↔
        ∃ overflow, (make tree registry false fallback).OverflowsAt language keyPath values overflow ∧
          failure = .overflow overflow) := by
  refine ⟨?_, ?_, ?_, ?_⟩
  · intro template given
    rcases substitute_cases keyPath template given with answered | refused | ⟨overflow, exceeds, _⟩
    · exact Or.inl answered
    · exact Or.inr (Or.inl refused)
    · exact Or.inr (Or.inr ⟨overflow, exceeds⟩)
  · intro template given overflow
    exact substitute_eq_overflow
  · intro failure
    exact resolveWithProblem_eq_error
  · intro failure
    rw [(@resolve_of_permissive (make tree registry false fallback) _ _ _ rfl).1,
      ← resolveWithProblem_eq_error]
    cases ((make tree registry false fallback).resolveWithProblem language keyPath values).result <;>
      simp [Except.map]

/-- A tree with a text that shows a number as a code point. -/
def pointTree : Tree := .make [.leaf "point" (.ofList [("en", "\x7bn:c\x7d")])] ["en"] "0" []

/-- The number after that of the last code point gives neither a text nor a problem, in no mode. -/
theorem code_point_overflows :
    substitute [] "\x7bn:c\x7d" [("n", .int 0x110000)] = .error (.overflow .notACodePoint) ∧
      ((make pointTree none false none).resolveWithProblem "en" "point"
        (some [("n", .int 0x110000)])).result = .error (.overflow .notACodePoint) ∧
      ((make pointTree none false none).resolve "en" "point"
        (some [("n", .int 0x110000)])).result = .error (.overflow .notACodePoint) := by
  decide +kernel

end Phrasebook.Resolver
