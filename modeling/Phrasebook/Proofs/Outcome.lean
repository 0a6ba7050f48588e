import Mathlib.Data.List.Forall2
import Phrasebook.Event

/-!
# Outcomes

What an answer or an error of a sequence of steps tells about the steps.
-/

namespace Phrasebook

theorem exists_of_forall₂ {α β : Type} {related : α → β → Prop} {first : List α} {second : List β}
    (all : List.Forall₂ related first second) {value : α} (given : value ∈ first) :
    ∃ other ∈ second, related value other := by
  induction all with
  | nil => cases given
  | cons here _ ih =>
    rcases List.mem_cons.mp given with rfl | later
    · exact ⟨_, List.mem_cons_self, here⟩
    · rcases ih later with ⟨other, isLater, there⟩
      exact ⟨other, List.mem_cons_of_mem _ isLater, there⟩

namespace Outcome

universe u v

variable {ε ε' : Type u} {α β : Type v}

@[simp]
theorem bind_eq_ok {first : Except ε α} {next : α → Except ε β} {answer : β} :
    (first >>= next) = .ok answer ↔ ∃ middle, first = .ok middle ∧ next middle = .ok answer := by
  cases first <;> simp [bind, Except.bind]

@[simp]
theorem bind_eq_error {first : Except ε α} {next : α → Except ε β} {failure : ε} :
    (first >>= next) = .error failure ↔
      first = .error failure ∨ ∃ middle, first = .ok middle ∧ next middle = .error failure := by
  cases first <;> simp [bind, Except.bind]

@[simp]
theorem map_eq_ok {first : Except ε α} {change : α → β} {answer : β} :
    change <$> first = .ok answer ↔ ∃ middle, first = .ok middle ∧ change middle = answer := by
  cases first <;> simp [Functor.map, Except.map]

@[simp]
theorem map_eq_error {first : Except ε α} {change : α → β} {failure : ε} :
    change <$> first = .error failure ↔ first = .error failure := by
  cases first <;> simp [Functor.map, Except.map]

@[simp]
theorem pure_eq_ok {given answer : α} :
    (pure given : Except ε α) = .ok answer ↔ given = answer := by
  simp [pure, Except.pure]

@[simp]
theorem pure_ne_error {given : α} {failure : ε} : (pure given : Except ε α) ≠ .error failure := by
  simp [pure, Except.pure]

@[simp]
theorem throw_ne_ok {failure : ε} {answer : α} : (throw failure : Except ε α) ≠ .ok answer := by
  simp [throw, throwThe, MonadExceptOf.throw]

@[simp]
theorem throw_eq_error {given failure : ε} :
    (throw given : Except ε α) = .error failure ↔ given = failure := by
  simp [throw, throwThe, MonadExceptOf.throw]

@[simp]
theorem mapError_eq_ok {first : Except ε α} {change : ε → ε'} {answer : α} :
    first.mapError change = .ok answer ↔ first = .ok answer := by
  cases first <;> simp [Except.mapError]

@[simp]
theorem mapError_eq_error {first : Except ε α} {change : ε → ε'} {failure : ε'} :
    first.mapError change = .error failure ↔ ∃ cause, first = .error cause ∧ change cause = failure := by
  cases first <;> simp [Except.mapError]

/-- The error of steps that have one. -/
def failure? : Except ε α → Option ε
  | .ok _ => none
  | .error failure => some failure

@[simp]
theorem failure?_eq_some {steps : Except ε α} {failure : ε} :
    failure? steps = some failure ↔ steps = .error failure := by
  cases steps <;> simp [failure?]

@[simp]
theorem failure?_eq_none {steps : Except ε α} : failure? steps = none ↔ ∃ answer, steps = .ok answer := by
  cases steps <;> simp [failure?]

/-- Steps fail as the first of them does, or else as those after it do. -/
theorem failure?_bind {first : Except ε α} {next : α → Except ε β} {failure : Option ε}
    (after : ∀ middle, first = .ok middle → failure? (next middle) = failure) :
    failure? (first >>= next) = (failure? first).or failure := by
  cases first with
  | error given => rfl
  | ok middle => exact after middle rfl

theorem failure?_bind_pure {first : Except ε α} {change : α → β} :
    failure? (first >>= fun middle => pure (change middle)) = failure? first := by
  cases first <;> rfl

/-- Checks of the items of a list succeed if that of each item does. -/
theorem forM_eq_ok {items : List α} {check : α → Except ε PUnit} :
    items.forM check = .ok () ↔ ∀ item ∈ items, check item = .ok () := by
  induction items with
  | nil => simp [List.forM]
  | cons first rest ih =>
    rw [List.forM, bind_eq_ok, List.forall_mem_cons, ← ih]
    constructor
    · rintro ⟨_, checked, later⟩
      exact ⟨checked, later⟩
    · rintro ⟨checked, later⟩
      exact ⟨(), checked, later⟩

/-- Checks of the items of a list fail as that of one item does. -/
theorem exists_of_forM_eq_error {items : List α} {check : α → Except ε PUnit} {failure : ε}
    (failed : items.forM check = .error failure) : ∃ item ∈ items, check item = .error failure := by
  induction items with
  | nil => cases failed
  | cons first rest ih =>
    rw [List.forM, bind_eq_error] at failed
    rcases failed with failed | ⟨_, _, failed⟩
    · exact ⟨first, List.mem_cons_self, failed⟩
    · rcases ih failed with ⟨item, member, failed⟩
      exact ⟨item, List.mem_cons_of_mem first member, failed⟩

/-- Steps for the items of a list fail as that for the first item that fails. -/
theorem mapM_eq_error {items : List α} {step : α → Except ε β} {failure : ε} :
    items.mapM step = .error failure ↔
      ∃ before item after, items = before ++ item :: after ∧
        (∀ earlier ∈ before, ∃ answer, step earlier = .ok answer) ∧ step item = .error failure := by
  induction items with
  | nil => simp
  | cons first rest ih =>
    simp only [List.mapM_cons, bind_eq_error, pure_ne_error, and_false, exists_false, or_false, ih]
    constructor
    · rintro (failed | ⟨answer, answered, before, item, after, rfl, sound, failed⟩)
      · exact ⟨[], first, rest, rfl, by simp, failed⟩
      · refine ⟨first :: before, item, after, rfl, ?_, failed⟩
        rw [List.forall_mem_cons]
        exact ⟨⟨answer, answered⟩, sound⟩
    · rintro ⟨_ | ⟨earlier, before⟩, item, after, split, sound, failed⟩
      · cases split
        exact Or.inl failed
      · cases split
        rw [List.forall_mem_cons] at sound
        rcases sound with ⟨⟨answer, answered⟩, sound⟩
        exact Or.inr ⟨answer, answered, before, item, after, rfl, sound, failed⟩

/-- Steps for the items of a list succeed if each of them does, with their answers in order. -/
theorem mapM_eq_ok {items : List α} {step : α → Except ε β} {answers : List β} :
    items.mapM step = .ok answers ↔
      List.Forall₂ (fun item answer => step item = .ok answer) items answers := by
  induction items generalizing answers with
  | nil => rw [List.mapM_nil, pure_eq_ok, List.forall₂_nil_left_iff, eq_comm]
  | cons first rest ih =>
    simp only [List.mapM_cons, bind_eq_ok, pure_eq_ok, ih]
    constructor
    · rintro ⟨answer, answered, others, later, rfl⟩
      exact .cons answered later
    · rintro (_ | ⟨answered, later⟩)
      exact ⟨_, answered, _, later, rfl⟩

/-- What every step keeps is kept by steps for the items of a list. -/
theorem foldlM_keeps {state : Type v} {step : state → α → Except ε state} (kept : state → Prop)
    {items : List α} (keeps : ∀ item ∈ items, ∀ before after, step before item = .ok after →
      kept before → kept after)
    {start last : state} (ran : items.foldlM step start = .ok last) (given : kept start) :
    kept last := by
  induction items generalizing start with
  | nil =>
    cases pure_eq_ok.mp ran
    exact given
  | cons item rest ih =>
    rw [List.foldlM_cons, bind_eq_ok] at ran
    rcases ran with ⟨next, stepped, later⟩
    rw [List.forall_mem_cons] at keeps
    exact ih keeps.2 later (keeps.1 start next stepped given)

/-! ### Answers with events -/

@[simp]
theorem reported_bind_eq_ok {ε α β : Type} {first : Reported ε α} {next : α → Reported ε β}
    {answer : β} :
    (first >>= next).result = .ok answer ↔
      ∃ middle, first.result = .ok middle ∧ (next middle).result = .ok answer := by
  rcases first with ⟨events, failure | middle⟩ <;> simp [bind, Reported.bind]

@[simp]
theorem reported_bind_eq_error {ε α β : Type} {first : Reported ε α} {next : α → Reported ε β}
    {failure : ε} :
    (first >>= next).result = .error failure ↔
      first.result = .error failure ∨
        ∃ middle, first.result = .ok middle ∧ (next middle).result = .error failure := by
  rcases first with ⟨events, stopped | middle⟩ <;> simp [bind, Reported.bind]

/-- After an answer, what comes next decides the result. -/
theorem reported_bind_of_ok {ε α β : Type} {first : Reported ε α} {next : α → Reported ε β}
    {answer : α} (succeeded : first.result = .ok answer) :
    (first >>= next).result = (next answer).result := by
  rcases first with ⟨events, failure | given⟩
  · cases succeeded
  · cases succeeded
    rfl

/-- A report at the end changes no result. -/
theorem reported_bind_report {ε : Type} (first : Reported ε Unit) (event : Event) :
    (first >>= fun _ => Reported.report event).result = first.result := by
  rcases first with ⟨events, failure | _⟩ <;> rfl

@[simp]
theorem reported_pure {ε α : Type} {answer : α} :
    (pure answer : Reported ε α).result = .ok answer := rfl

@[simp]
theorem reported_throw {ε α : Type} {failure : ε} :
    (throw failure : Reported ε α).result = .error failure := rfl

@[simp]
theorem reported_report {ε : Type} {event : Event} :
    (Reported.report event : Reported ε Unit).result = .ok () := rfl

@[simp]
theorem reported_ofExcept {ε ε' α : Type} {change : ε → ε'} {result : Except ε α} :
    (Reported.ofExcept change result).result = result.mapError change := rfl

@[simp]
theorem reported_map {ε α β : Type} {change : α → β} {first : Reported ε α} :
    (change <$> first).result = change <$> first.result := by
  rcases first with ⟨events, stopped | answer⟩ <;> rfl

@[simp]
theorem reported_mapError {ε ε' α : Type} {change : ε → ε'} {first : Reported ε α} :
    (first.mapError change).result = first.result.mapError change := rfl

@[simp]
theorem reported_lift {ε α : Type} {result : Except ε α} :
    (liftM result : Reported ε α).result = result := rfl

end Outcome

end Phrasebook
