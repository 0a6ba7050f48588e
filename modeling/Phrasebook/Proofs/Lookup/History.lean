import Phrasebook.Lookup.Context
import Phrasebook.Proofs.Language.Lookup

/-!
# Histories of contexts

A context is used step by step: its language is changed, texts are looked up, handles are made and resolved.
Whatever came before, the language is the one that was selected last, and an answer is the one that a context
made just now in this language gives. So a handle may be kept for as long as one likes.
-/

namespace Phrasebook

open Outcome

namespace Context

variable {tree : Tree} {registry : Registry} {strict : Bool} {code : Text} {language : Language}

/-! ### Contexts -/

theorem make_of_get (known : registry.get code = .ok language) :
    make tree registry (some code) strict = .ok ⟨tree, registry, strict, language, mem_of_get known⟩ := by
  unfold make
  dsimp only
  split <;> rename_i found
  · rw [known] at found
    cases found
  · rw [known] at found
    cases found
    rfl

theorem make_of_error {problem : Problem} (unknown : registry.get code = .error problem) :
    make tree registry (some code) strict = .error problem := by
  unfold make
  dsimp only
  split <;> rename_i found
  · rw [unknown] at found
    cases found
    rfl
  · rw [unknown] at found
    cases found

/-- A context is the one that is made in its language. -/
theorem make_self (context : Context) :
    make context.tree context.registry (some context.language.code) context.strict = .ok context :=
  make_of_get (Registry.get_code context.language_mem)

theorem make_eq_ok {code : Option Text} {context : Context}
    (made : make tree registry code strict = .ok context) :
    (context.tree = tree ∧ context.registry = registry ∧ context.strict = strict) ∧
      (code = none → context.language = registry.fallback) ∧
      ∀ given, code = some given → registry.get given = .ok context.language := by
  cases code with
  | none =>
    cases made
    exact ⟨⟨rfl, rfl, rfl⟩, fun _ => rfl, nofun⟩
  | some code =>
    cases known : registry.get code with
    | error problem =>
      rw [make_of_error known] at made
      cases made
    | ok language =>
      rw [make_of_get known] at made
      cases made
      refine ⟨⟨rfl, rfl, rfl⟩, nofun, ?_⟩
      rintro _ ⟨⟩
      exact known

/-- A change to the language with a code leaves all else as it was. -/
theorem changeLanguage_of_get {context : Context} (known : context.registry.get code = .ok language) :
    context.changeLanguage code =
      ⟨[.languageChanged code],
        .ok ⟨context.tree, context.registry, context.strict, language, mem_of_get known⟩⟩ := by
  unfold changeLanguage
  split <;> rename_i found
  · rw [known] at found
    cases found
  · rw [known] at found
    cases found
    rfl

theorem changeLanguage_of_error {context : Context} {problem : Problem}
    (unknown : context.registry.get code = .error problem) :
    context.changeLanguage code = throw problem := by
  unfold changeLanguage
  split <;> rename_i found
  · rw [unknown] at found
    cases found
    rfl
  · rw [unknown] at found
    cases found

/-! ### Steps -/

/-- A step on a context. A handle is given by its number among the handles made so far. -/
inductive Step where
  | changeLanguage (code : Text)
  | resolve (key : Text) (values : Option Fields)
  | forKey (key : Text)
  | getString (number : Nat) (values : Option Fields)
  | children (number : Nat)

/-- What a step answers. -/
inductive Answer where
  | changed
  | text (shown : Text)
  | handles (made : List Handle)
  /-- There is no handle with the number that is given. -/
  | nothing

/-- A context in use, with the handles made so far. -/
structure Dialogue where
  context : Context
  handles : List Handle

/-- The handles for the children of a handle's node, as an answer. -/
def childrenAnswer (context : Context) (handle : Handle) : Reported Failure Answer :=
  Reported.ofExcept Failure.problem (.handles <$> context.children handle)

namespace Dialogue

/-- Carries out a step: its answer, and the dialogue after it. -/
def perform (dialogue : Dialogue) : Step → Reported Failure Answer × Dialogue
  | .changeLanguage code =>
    let changed := dialogue.context.changeLanguage code
    match changed.result with
    | .error problem => (⟨changed.events, .error (.problem problem)⟩, dialogue)
    | .ok context => (⟨changed.events, .ok .changed⟩, { dialogue with context })
  | .resolve key values => (.text <$> dialogue.context.resolve key values, dialogue)
  | .forKey key => (pure (.handles [⟨key⟩]), { dialogue with handles := dialogue.handles ++ [⟨key⟩] })
  | .getString number values =>
    match dialogue.handles[number]? with
    | none => (pure .nothing, dialogue)
    | some handle => (.text <$> dialogue.context.resolve handle.key values, dialogue)
  | .children number =>
    match dialogue.handles[number]? with
    | none => (pure .nothing, dialogue)
    | some handle =>
      (dialogue.context.childrenAnswer handle,
        match dialogue.context.children handle with
        | .error _ => dialogue
        | .ok made => { dialogue with handles := dialogue.handles ++ made })

/-- The dialogue after some steps. -/
def run (dialogue : Dialogue) (steps : List Step) : Dialogue :=
  steps.foldl (fun dialogue step => (dialogue.perform step).2) dialogue

end Dialogue

/-- The code that a step selects. -/
def Step.code? : Step → Option Text
  | .changeLanguage code => some code
  | _ => none

/-- The language that was selected last: that of the last code with a language, or else the first one. -/
def selectedLast (registry : Registry) (first : Language) (steps : List Step) : Language :=
  (steps.filterMap fun step => step.code?.bind registry.find?).getLastD first

theorem selectedLast_cons (registry : Registry) (first : Language) (step : Step) (rest : List Step) :
    selectedLast registry first (step :: rest) =
      selectedLast registry ((step.code?.bind registry.find?).getD first) rest := by
  rw [selectedLast, List.filterMap_cons]
  cases step.code?.bind registry.find? with
  | none => rfl
  | some language => exact List.getLastD_cons

namespace Dialogue

variable {dialogue : Dialogue} {step : Step}

theorem run_append (dialogue : Dialogue) (before after : List Step) :
    dialogue.run (before ++ after) = (dialogue.run before).run after :=
  List.foldl_append

/-- All that a step can do to a context is to select another language of its registry. -/
theorem context_perform (dialogue : Dialogue) (step : Step) :
    (dialogue.perform step).2.context = dialogue.context ∧
        step.code?.bind dialogue.context.registry.find? = none ∨
      ∃ code language, ∃ known : dialogue.context.registry.get code = .ok language,
        step = .changeLanguage code ∧
        (dialogue.perform step).2.context =
          ⟨dialogue.context.tree, dialogue.context.registry, dialogue.context.strict, language,
            mem_of_get known⟩ := by
  cases step with
  | changeLanguage code =>
    cases known : dialogue.context.registry.get code with
    | error problem =>
      left
      simp [perform, changeLanguage_of_error known, Step.code?, Registry.get_eq_error known]
    | ok language =>
      refine Or.inr ⟨code, language, known, rfl, ?_⟩
      simp [perform, changeLanguage_of_get known]
  | resolve key values => exact Or.inl ⟨rfl, rfl⟩
  | forKey key => exact Or.inl ⟨rfl, rfl⟩
  | getString number values =>
    left
    cases found : dialogue.handles[number]? <;> simp [perform, found, Step.code?]
  | children number =>
    left
    cases found : dialogue.handles[number]? with
    | none => simp [perform, found, Step.code?]
    | some handle =>
      cases answered : dialogue.context.children handle <;> simp [perform, found, answered, Step.code?]

/-- Handles stay, and new ones come after them. -/
theorem handles_perform (dialogue : Dialogue) (step : Step) :
    dialogue.handles <+: (dialogue.perform step).2.handles := by
  cases step with
  | changeLanguage code =>
    simp only [perform]
    split <;> exact List.prefix_rfl
  | resolve key values => exact List.prefix_rfl
  | forKey key => exact List.prefix_append _ _
  | getString number values =>
    simp only [perform]
    split <;> exact List.prefix_rfl
  | children number =>
    simp only [perform]
    split
    · exact List.prefix_rfl
    · dsimp only
      split
      · exact List.prefix_rfl
      · exact List.prefix_append _ _

/-- A step that fails changes nothing. -/
theorem perform_of_error {failure : Failure}
    (failed : (dialogue.perform step).1.result = .error failure) : (dialogue.perform step).2 = dialogue := by
  cases step with
  | changeLanguage code =>
    simp only [perform] at failed ⊢
    split at failed
    · rfl
    · cases failed
  | resolve key values => rfl
  | forKey key => cases failed
  | getString number values =>
    simp only [perform]
    split <;> rfl
  | children number =>
    simp only [perform] at failed ⊢
    split at failed
    · cases failed
    · rename_i handle _
      cases answered : dialogue.context.children handle with
      | error problem => rfl
      | ok made => simp [childrenAnswer, answered, Except.mapError] at failed

/-! ### Runs -/

/-- After a run the context is that of the start in the language that was selected last. -/
theorem context_run (dialogue : Dialogue) (steps : List Step) :
    let context := (dialogue.run steps).context
    (context.tree = dialogue.context.tree ∧ context.registry = dialogue.context.registry ∧
        context.strict = dialogue.context.strict) ∧
      context.language = selectedLast dialogue.context.registry dialogue.context.language steps := by
  induction steps generalizing dialogue with
  | nil => exact ⟨⟨rfl, rfl, rfl⟩, rfl⟩
  | cons step rest ih =>
    have later := ih (dialogue.perform step).2
    rcases context_perform dialogue step with ⟨same, noChange⟩ | ⟨code, language, known, rfl, changed⟩
    · rw [same] at later
      rw [selectedLast_cons, noChange]
      exact later
    · have found := Registry.find?_eq_some.mpr (Registry.get_eq_ok.mp known)
      rw [changed] at later
      rw [selectedLast_cons, Step.code?, Option.bind_some, found]
      exact later

theorem handles_run (dialogue : Dialogue) (steps : List Step) :
    dialogue.handles <+: (dialogue.run steps).handles := by
  induction steps generalizing dialogue with
  | nil => exact List.prefix_rfl
  | cons step rest ih => exact (handles_perform dialogue step).trans (ih _)

theorem perform_changeLanguage (dialogue : Dialogue) (code : Text) :
    (dialogue.perform (.changeLanguage code)).1 =
      (fun _ => .changed) <$> (dialogue.context.changeLanguage code).mapError .problem := by
  cases known : dialogue.context.registry.get code with
  | error problem => simp only [perform, changeLanguage_of_error known]; rfl
  | ok language => simp only [perform, changeLanguage_of_get known]; rfl

theorem perform_getString {number : Nat} {handle : Handle} (values : Option Fields)
    (made : dialogue.handles[number]? = some handle) :
    (dialogue.perform (.getString number values)).1 =
      .text <$> dialogue.context.resolve handle.key values := by
  simp [perform, made]

theorem perform_children {number : Nat} {handle : Handle}
    (made : dialogue.handles[number]? = some handle) :
    (dialogue.perform (.children number)).1 = dialogue.context.childrenAnswer handle := by
  simp [perform, made]

end Dialogue

/-- After any steps the language of a context is the registered one that was selected last. The steps that
select fail exactly for codes that are not registered, and a step that fails changes nothing. Each answer is
that of a context made just now in the language, for the same key path and values. A handle keeps its key
path, so what it answers does not depend on the steps since it was made. -/
theorem answers_as_fresh {code : Option Text} {context : Context}
    (made : make tree registry code strict = .ok context) (earlier later : List Step) :
    let dialogue := Dialogue.run ⟨context, []⟩ (earlier ++ later)
    let language := selectedLast registry context.language (earlier ++ later)
    ((code = none → context.language = registry.fallback) ∧
      ∀ given, code = some given → registry.get given = .ok context.language) ∧
    registry.get language.code = .ok language ∧ dialogue.context.language = language ∧
    (∀ code, (∃ answer, (dialogue.perform (.changeLanguage code)).1.result = .ok answer) ↔
      code ∈ registry.codes) ∧
    (∀ step failure, (dialogue.perform step).1.result = .error failure →
      (dialogue.perform step).2 = dialogue) ∧
    ∃ fresh, make tree registry (some language.code) strict = .ok fresh ∧
      (∀ code, (dialogue.perform (.changeLanguage code)).1 =
        (fun _ => .changed) <$> (fresh.changeLanguage code).mapError .problem) ∧
      (∀ key values, (dialogue.perform (.resolve key values)).1 = .text <$> fresh.resolve key values) ∧
      (∀ key, (dialogue.perform (.forKey key)).1 = pure (.handles [⟨key⟩])) ∧
      ∀ (number : Nat) (handle : Handle),
        (Dialogue.run ⟨context, []⟩ earlier).handles[number]? = some handle →
        (∀ values, (dialogue.perform (.getString number values)).1 =
          .text <$> fresh.resolve handle.key values) ∧
        (dialogue.perform (.children number)).1 = fresh.childrenAnswer handle := by
  intro dialogue language
  rcases make_eq_ok made with ⟨⟨rfl, rfl, rfl⟩, first⟩
  rcases Dialogue.context_run ⟨context, []⟩ (earlier ++ later) with ⟨⟨sameTree, sameRegistry, sameMode⟩, current⟩
  have registered : dialogue.context.language ∈ context.registry.languages := by
    rw [← sameRegistry]
    exact dialogue.context.language_mem
  have fresh := make_self dialogue.context
  rw [sameTree, sameRegistry, sameMode, current] at fresh
  rw [current] at registered
  refine ⟨first, Registry.get_code registered, current, ?selects, fun _ _ => Dialogue.perform_of_error,
    dialogue.context, fresh, Dialogue.perform_changeLanguage dialogue, fun _ _ => rfl, fun _ => rfl, ?handles⟩
  case selects =>
    intro code
    rw [← Registry.exists_get_iff, ← sameRegistry]
    cases known : dialogue.context.registry.get code with
    | error problem => simp [Dialogue.perform, changeLanguage_of_error known]
    | ok language => simp [Dialogue.perform, changeLanguage_of_get known]
  case handles =>
    intro number handle given
    have kept : dialogue.handles[number]? = some handle := by
      have stays := Dialogue.handles_run (Dialogue.run ⟨context, []⟩ earlier) later
      rw [← Dialogue.run_append] at stays
      rcases stays with ⟨more, same⟩
      rw [← same, List.getElem?_append_left (List.getElem?_eq_some_iff.mp given).1]
      exact given
    exact ⟨fun values => Dialogue.perform_getString values kept, Dialogue.perform_children kept⟩

/-- A tree with a greeting in two languages, below a menu. -/
def menuTree : Tree :=
  .make [.branch "menu" .empty [.leaf "hello" (.ofList [("ja", "やあ"), ("en", "Hi")])]] ["ja", "en"] "0" []

/-- A handle is made, its children are asked for, the language is changed, and a change to a language that
is not registered fails. The handle and that of its child then answer in the language of the first change. -/
theorem answers_as_fresh_menu :
    ∃ context, make menuTree Registry.builtIn none false = .ok context ∧ context.language.code = "en" ∧
      let dialogue := Dialogue.run ⟨context, []⟩
        [.forKey "menu", .children 0, .changeLanguage "ja", .changeLanguage "de"]
      dialogue.context.language.code = "ja" ∧
        (dialogue.perform (.changeLanguage "de")).2 = dialogue ∧
        (dialogue.perform (.getString 1 none)).1 = pure (.text "やあ") ∧
        (dialogue.perform (.children 0)).1 = pure (.handles [⟨"menu.hello"⟩]) := by
  refine ⟨_, rfl, rfl, ?_⟩
  have made : make menuTree Registry.builtIn none false = .ok _ := rfl
  rcases answers_as_fresh made [.forKey "menu", .children 0] [.changeLanguage "ja", .changeLanguage "de"]
    with ⟨_, _, current, _, keeps, fresh, freshly, _, _, _, handles⟩
  refine ⟨congrArg Language.code current, keeps (.changeLanguage "de") _ rfl, ?_, ?_⟩
  · refine ((handles 1 ⟨"menu.hello"⟩ rfl).1 none).trans ?_
    cases freshly
    rfl
  · refine (handles 0 ⟨"menu"⟩ rfl).2.trans ?_
    cases freshly
    rfl

end Context

end Phrasebook
