import Phrasebook.Proofs.Language.Lookup
import Phrasebook.Proofs.Text.Replacing
import Phrasebook.Proofs.Text.Split

/-!
# Languages of locales

The code of a locale may have dashes or underscores between its subtags, and so may the codes of languages.
A language is found for a locale if its code is that of the locale as it stands or with dashes throughout;
after that the first subtag and the fallback decide. So a language with an underscore in its code is missed
for other spellings of its code, and the spelling of a locale makes no difference exactly if every such
language is what is left when the spelling is not found.
-/

namespace Phrasebook

/-! ### Spellings of codes -/

namespace Locale

/-- Writes a dash for every underscore. -/
def dashed (code : Text) : Text := code.replace '_' "-"

/-- Two codes differ in nothing but the separators of their subtags. -/
def SpelledAlike (first second : Text) : Prop := normalize first = normalize second

variable {code other : Text}

theorem normalize_eq_replace (code : Text) : normalize code = code.replace '-' [.scalar '_'] := by
  have underscore : Text.ofString "_" = [.scalar '_'] := by decide
  rw [normalize, underscore]

theorem dashed_eq_replace (code : Text) : dashed code = code.replace '_' [.scalar '-'] := by
  have dash : Text.ofString "-" = [.scalar '-'] := by decide
  rw [dashed, dash]

theorem dash_not_mem_normalize (code : Text) : .scalar '-' ∉ normalize code :=
  Text.not_mem_replace (by decide)

theorem normalize_normalize (code : Text) : normalize (normalize code) = normalize code :=
  Text.replace_of_not_mem (dash_not_mem_normalize code)

theorem normalize_dashed (code : Text) : normalize (dashed code) = normalize code := by
  rw [dashed_eq_replace, normalize_eq_replace, normalize_eq_replace, Text.replace_back]

theorem dashed_normalize (code : Text) : dashed (normalize code) = dashed code := by
  rw [dashed_eq_replace, dashed_eq_replace, normalize_eq_replace, Text.replace_back]

theorem dashed_dashed (code : Text) : dashed (dashed code) = dashed code := by
  rw [← dashed_normalize (dashed code), normalize_dashed, dashed_normalize]

theorem dashed_eq_self_iff : dashed code = code ↔ .scalar '_' ∉ code := by
  constructor
  · intro same
    rw [← same]
    exact Text.not_mem_replace (by decide)
  · exact Text.replace_of_not_mem

theorem SpelledAlike.dashed_eq (alike : SpelledAlike code other) : dashed code = dashed other := by
  rw [← dashed_normalize code, alike, dashed_normalize]

end Locale

/-! ### Look-ups by locale -/

namespace Registry

open Phrasebook.Locale (SpelledAlike dashed normalize)

variable {registry : Registry} {language : Language} {code other : Text}

/-- No two languages have codes that differ in nothing but the separators of their subtags. -/
def Unambiguous (registry : Registry) : Prop :=
  ∀ language ∈ registry.languages, ∀ other ∈ registry.languages,
    SpelledAlike language.code other.code → language = other

/-- The first subtag of a code. -/
def firstSubtag (code : Text) : Text := Text.firstPiece '_' (normalize code)

/-- The language of a locale if its code is not found: that of its first subtag, or else the fallback. -/
def baseLanguage (registry : Registry) (code : Text) : Language :=
  (registry.find? (firstSubtag code)).getD registry.fallback

/-- A language is the fallback, and no language has the first subtag of its code for a code. -/
def IsLastResort (registry : Registry) (language : Language) : Prop :=
  language = registry.fallback ∧ firstSubtag language.code ∉ registry.codes

theorem find?_eq_none : registry.find? code = none ↔ code ∉ registry.codes := by
  rw [← contains_iff, contains, Option.not_isSome_iff_eq_none]

theorem nil_not_mem_codes (accepted : registry.Accepted) : [] ∉ registry.codes := by
  intro listed
  rcases List.mem_map.mp listed with ⟨language, member, empty⟩
  apply (accepted_iff.mp accepted).visible language member
  rw [empty]
  rfl

/-- The steps of the look-up, which are the same for a code that is empty. -/
theorem matchLocale_some (accepted : registry.Accepted) (code : Text) :
    registry.matchLocale (some code) =
      ((registry.find? code).or (registry.find? (dashed code))).getD (registry.baseLanguage code) := by
  cases code with
  | nil =>
    have absent : registry.find? [] = none := find?_eq_none.mpr (nil_not_mem_codes accepted)
    have fallback : registry.baseLanguage [] = registry.fallback := by
      change (registry.find? []).getD registry.fallback = registry.fallback
      rw [absent, Option.getD_none]
    have same : dashed [] = [] := rfl
    rw [same, absent, fallback]
    rfl
  | cons point rest =>
    have steps : registry.matchLocale (some (point :: rest)) =
        ([point :: rest, dashed (point :: rest), firstSubtag (point :: rest)].findSome?
          registry.find?).getD registry.fallback := rfl
    rw [steps, baseLanguage]
    simp only [List.findSome?_cons, List.findSome?_nil]
    cases registry.find? (point :: rest) with
    | some language => rfl
    | none =>
      cases registry.find? (dashed (point :: rest)) with
      | some language => rfl
      | none => cases registry.find? (firstSubtag (point :: rest)) <;> rfl

theorem baseLanguage_of_alike (alike : SpelledAlike code other) :
    registry.baseLanguage code = registry.baseLanguage other := by
  rw [baseLanguage, baseLanguage, firstSubtag, firstSubtag, alike]

/-- A code with an underscore is not its own first subtag. -/
theorem baseLanguage_eq_iff (underscored : .scalar '_' ∈ language.code) :
    registry.baseLanguage language.code = language ↔ registry.IsLastResort language := by
  rw [IsLastResort, ← find?_eq_none, baseLanguage]
  cases found : registry.find? (firstSubtag language.code) with
  | none => simp [eq_comm]
  | some base =>
    have subtag := (find?_eq_some.mp found).2
    have other : base ≠ language := by
      rintro rfl
      have absent := Text.not_mem_firstPiece '_' (normalize base.code)
      rw [← firstSubtag, ← subtag] at absent
      exact absent underscored
    simp [other]

section Unambiguous

variable (accepted : registry.Accepted) (unambiguous : registry.Unambiguous)

include unambiguous in
theorem find?_of_alike (member : language ∈ registry.languages) (alike : SpelledAlike language.code code) :
    registry.find? code = if language.code = code then some language else none := by
  split
  · rename_i same
    exact find?_eq_some.mpr ⟨member, same⟩
  · rename_i differs
    rw [find?_eq_none]
    intro listed
    rcases List.mem_map.mp listed with ⟨other, isOther, same⟩
    rw [← same] at alike
    rw [unambiguous _ member _ isOther alike] at differs
    exact differs same

include accepted unambiguous

/-- A language is found for the spelling of its own code and for the spelling with dashes only. -/
theorem matchLocale_of_alike (member : language ∈ registry.languages)
    (alike : SpelledAlike language.code code) :
    registry.matchLocale (some code) =
      if language.code = code ∨ language.code = dashed code then language
      else registry.baseLanguage code := by
  have alikeDashed : SpelledAlike language.code (dashed code) :=
    alike.trans (Locale.normalize_dashed code).symm
  rw [matchLocale_some accepted, find?_of_alike unambiguous member alike,
    find?_of_alike unambiguous member alikeDashed]
  by_cases same : language.code = code
  · rw [if_pos same, if_pos (Or.inl same)]
    rfl
  · rw [if_neg same, Option.none_or]
    by_cases sameDashed : language.code = dashed code
    · rw [if_pos sameDashed, if_pos (Or.inr sameDashed)]
      rfl
    · rw [if_neg sameDashed, if_neg (not_or.mpr ⟨same, sameDashed⟩)]
      rfl

omit unambiguous in
theorem matchLocale_of_unlike
    (unlike : ∀ language ∈ registry.languages, ¬SpelledAlike language.code code) :
    registry.matchLocale (some code) = registry.baseLanguage code := by
  have absent : ∀ spelling, SpelledAlike spelling code → registry.find? spelling = none := by
    intro spelling alike
    rw [find?_eq_none]
    intro listed
    rcases List.mem_map.mp listed with ⟨language, member, same⟩
    rw [← same] at alike
    exact unlike language member alike
  rw [matchLocale_some accepted, absent code rfl, absent (dashed code) (Locale.normalize_dashed code)]
  rfl

/-- A language with an underscore in its code is not found for the spelling with dashes. -/
theorem matchLocale_dashed (member : language ∈ registry.languages)
    (underscored : .scalar '_' ∈ language.code) :
    registry.matchLocale (some (dashed language.code)) = registry.baseLanguage language.code := by
  have alike : SpelledAlike language.code (dashed language.code) := (Locale.normalize_dashed _).symm
  have differs : language.code ≠ dashed language.code := fun same =>
    Locale.dashed_eq_self_iff.mp same.symm underscored
  rw [matchLocale_of_alike accepted unambiguous member alike, Locale.dashed_dashed,
    if_neg (by simpa using differs)]
  exact baseLanguage_of_alike alike.symm

/-- Every language is found for all spellings of its code if those with an underscore are a last resort. -/
theorem matchLocale_of_lastResort
    (settled : ∀ language ∈ registry.languages, .scalar '_' ∈ language.code → registry.IsLastResort language)
    (member : language ∈ registry.languages) (alike : SpelledAlike language.code code) :
    registry.matchLocale (some code) = language := by
  rw [matchLocale_of_alike accepted unambiguous member alike]
  by_cases underscored : .scalar '_' ∈ language.code
  · have base := (baseLanguage_eq_iff underscored).mpr (settled language member underscored)
    rw [← baseLanguage_of_alike alike, base]
    exact ite_self _
  · have same : language.code = dashed code := by
      rw [← alike.dashed_eq, Locale.dashed_eq_self_iff.mpr underscored]
    rw [if_pos (Or.inr same)]

/-- All spellings of a code have one language then. -/
theorem matchLocale_eq_of_lastResort
    (settled : ∀ language ∈ registry.languages, .scalar '_' ∈ language.code → registry.IsLastResort language)
    (alike : SpelledAlike code other) :
    registry.matchLocale (some code) = registry.matchLocale (some other) := by
  by_cases known : ∃ language ∈ registry.languages, SpelledAlike language.code other
  · rcases known with ⟨language, member, same⟩
    rw [matchLocale_of_lastResort accepted unambiguous settled member (same.trans alike.symm),
      matchLocale_of_lastResort accepted unambiguous settled member same]
  · have unlike : ∀ language ∈ registry.languages, ¬SpelledAlike language.code other :=
      fun language member same => known ⟨language, member, same⟩
    have unlikeCode : ∀ language ∈ registry.languages, ¬SpelledAlike language.code code :=
      fun language member same => unlike language member (same.trans alike)
    rw [matchLocale_of_unlike accepted unlikeCode, matchLocale_of_unlike accepted unlike,
      baseLanguage_of_alike alike]

end Unambiguous

/-- In a registry that tells its languages apart without regard to separators, a language is found for a
spelling of its code exactly if this is the spelling of the registry, or becomes it with dashes for
underscores; otherwise, and for codes of no language, the first subtag and the fallback decide. So all
spellings of a locale have one language, and a language has all spellings of its code, exactly if every
language with an underscore in its code is the fallback and no language has its first subtag for a code. -/
theorem matchLocale_unless_underscored {registry : Registry} (accepted : registry.Accepted)
    (unambiguous : registry.Unambiguous) :
    (∀ code, ∀ language ∈ registry.languages, SpelledAlike language.code code →
      registry.matchLocale (some code) =
        if language.code = code ∨ language.code = dashed code then language
        else registry.baseLanguage code) ∧
    (∀ code, (∀ language ∈ registry.languages, ¬SpelledAlike language.code code) →
      registry.matchLocale (some code) = registry.baseLanguage code) ∧
    ((∀ code, registry.matchLocale (some (normalize code)) = registry.matchLocale (some code) ∧
        registry.matchLocale (some (dashed code)) = registry.matchLocale (some code)) ↔
      ∀ language ∈ registry.languages, .scalar '_' ∈ language.code → registry.IsLastResort language) ∧
    ((∀ code, ∀ language ∈ registry.languages, SpelledAlike language.code code →
        registry.matchLocale (some code) = language) ↔
      ∀ language ∈ registry.languages, .scalar '_' ∈ language.code → registry.IsLastResort language) := by
  refine ⟨fun code language member alike => matchLocale_of_alike accepted unambiguous member alike,
    fun code unlike => matchLocale_of_unlike accepted unlike, ⟨?missed, ?respelled⟩, ⟨?lost, ?found⟩⟩
  case missed =>
    intro invariant language member underscored
    have own := matchLocale_of_alike accepted unambiguous member rfl
    rw [if_pos (Or.inl rfl)] at own
    rw [← baseLanguage_eq_iff underscored, ← matchLocale_dashed accepted unambiguous member underscored,
      (invariant language.code).2, own]
  case respelled =>
    intro settled code
    exact ⟨matchLocale_eq_of_lastResort accepted unambiguous settled (Locale.normalize_normalize code),
      matchLocale_eq_of_lastResort accepted unambiguous settled (Locale.normalize_dashed code)⟩
  case lost =>
    intro returned language member underscored
    have alike : SpelledAlike language.code (dashed language.code) := (Locale.normalize_dashed _).symm
    rw [← baseLanguage_eq_iff underscored, ← matchLocale_dashed accepted unambiguous member underscored]
    exact returned _ language member alike
  case found =>
    intro settled code language member alike
    exact matchLocale_of_lastResort accepted unambiguous settled member alike

/-- A registry with a dash in one code, and an underscore in that of the fallback. -/
def dashedRegistry : Registry where
  languages := [⟨0, "zh-Hans", "中文"⟩, ⟨1, "en_GB", "English"⟩]
  fallback := ⟨1, "en_GB", "English"⟩
  fallback_mem := by simp
  codes_distinct := by decide
  ids_distinct := by decide

theorem matchLocale_unless_underscored_dashed :
    dashedRegistry.Accepted ∧ dashedRegistry.Unambiguous ∧
      ∀ code, dashedRegistry.matchLocale (some (normalize code)) = dashedRegistry.matchLocale (some code) ∧
        dashedRegistry.matchLocale (some (dashed code)) = dashedRegistry.matchLocale (some code) := by
  have accepted : dashedRegistry.Accepted := ⟨dashedRegistry.languages, "en_GB", by decide +kernel⟩
  have unambiguous : dashedRegistry.Unambiguous := by
    unfold Unambiguous SpelledAlike
    decide +kernel
  have settled : ∀ language ∈ dashedRegistry.languages, .scalar '_' ∈ language.code →
      dashedRegistry.IsLastResort language := by
    unfold IsLastResort
    decide +kernel
  rcases matchLocale_unless_underscored accepted unambiguous with ⟨_, _, respelled, _⟩
  exact ⟨accepted, unambiguous, respelled.mpr settled⟩

/-- A registry with an underscore in one code, and with the first subtag of that code for another. -/
def underscoredRegistry : Registry where
  languages := [⟨0, "pt_BR", "Português (Brasil)"⟩, ⟨1, "pt", "Português"⟩]
  fallback := ⟨1, "pt", "Português"⟩
  fallback_mem := by simp
  codes_distinct := by decide
  ids_distinct := by decide

/-- The language with an underscore is found for the spelling of its own code and missed for the spelling
with a dash. -/
theorem dash_misses_underscore :
    underscoredRegistry.Accepted ∧ underscoredRegistry.Unambiguous ∧
      underscoredRegistry.matchLocale (some "pt_BR") = ⟨0, "pt_BR", "Português (Brasil)"⟩ ∧
      underscoredRegistry.matchLocale (some (dashed "pt_BR")) = ⟨1, "pt", "Português"⟩ ∧
      ¬(∀ code, underscoredRegistry.matchLocale (some (dashed code)) =
        underscoredRegistry.matchLocale (some code)) ∧
      ¬∀ code, ∀ language ∈ underscoredRegistry.languages, SpelledAlike language.code code →
        underscoredRegistry.matchLocale (some code) = language := by
  have accepted : underscoredRegistry.Accepted := ⟨underscoredRegistry.languages, "pt", by decide +kernel⟩
  have unambiguous : underscoredRegistry.Unambiguous := by
    unfold Unambiguous SpelledAlike
    decide +kernel
  have own : underscoredRegistry.matchLocale (some "pt_BR") = ⟨0, "pt_BR", "Português (Brasil)"⟩ := by
    decide +kernel
  have respelled : underscoredRegistry.matchLocale (some (dashed "pt_BR")) = ⟨1, "pt", "Português"⟩ := by
    decide +kernel
  refine ⟨accepted, unambiguous, own, respelled, ?_, ?_⟩
  · intro claimed
    have same := claimed "pt_BR"
    rw [own, respelled] at same
    revert same
    decide
  · intro claimed
    have same := claimed (dashed "pt_BR") ⟨0, "pt_BR", "Português (Brasil)"⟩ List.mem_cons_self
      (Locale.normalize_dashed _).symm
    rw [respelled] at same
    revert same
    decide

end Registry

end Phrasebook
