import Mathlib.Data.List.Nodup
import Phrasebook.Language.Registry
import Phrasebook.Proofs.Outcome

/-!
# Languages of a registry

A registry is made of languages exactly if there is one, no code is blank, codes and identity numbers are
not repeated, no code is reserved or the field for lines of another code, and all codes and names can be
encoded. So the fields of different codes and the reserved fields of an object are all different.
-/

namespace Phrasebook.Registry

open Document Outcome

/-- Languages that a registry can be made of. -/
structure Sound (languages : List Language) : Prop where
  nonempty : languages ≠ []
  visible : ∀ language ∈ languages, ¬language.code.all CodePoint.isBlank
  codes_distinct : (languages.map Language.code).Nodup
  ids_distinct : (languages.map Language.id).Nodup
  unreserved : ∀ code ∈ languages.map Language.code, code ∉ reservedFields
  apart : ∀ code ∈ languages.map Language.code, linesField code ∉ languages.map Language.code
  encodable : ∀ language ∈ languages,
    language.code.isEncodable ∧ language.displayName.isEncodable

/-- A registry that was made of languages, with all checks. -/
def Accepted (registry : Registry) : Prop :=
  ∃ languages fallback, ofLanguages languages fallback = .ok registry

/-! ### Fields of a code -/

/-- The name of the field for a text of a code, in lines or in one piece. -/
def fieldName (inLines : Bool) (code : Text) : Text := if inLines then linesField code else code

theorem linesField_inj {first second : Text} : linesField first = linesField second ↔ first = second :=
  List.append_left_inj _

theorem linesField_not_reserved (code : Text) : linesField code ∉ reservedFields := by
  intro reserved
  have last : ∀ name ∈ reservedFields, name.getLast? ≠ some 'g' := by decide
  apply last _ reserved
  rw [linesField, List.getLast?_append]
  rfl

section Sound

variable {languages : List Language} (sound : Sound languages) {code other : Text}
  (known : code ∈ languages.map Language.code)

include sound known

theorem fieldName_not_reserved (inLines : Bool) : fieldName inLines code ∉ reservedFields := by
  cases inLines with
  | false => exact sound.unreserved code known
  | true => exact linesField_not_reserved code

/-- No two fields of codes have one name. -/
theorem fieldName_inj (otherKnown : other ∈ languages.map Language.code) {first second : Bool} :
    fieldName first code = fieldName second other ↔ first = second ∧ code = other := by
  cases first with
  | false =>
    cases second with
    | false => simp [fieldName]
    | true =>
      have apart : code ≠ linesField other := by
        rintro rfl
        exact sound.apart other otherKnown known
      simp [fieldName, apart]
  | true =>
    cases second with
    | false =>
      have apart : linesField code ≠ other := by
        rintro rfl
        exact sound.apart code known otherKnown
      simp [fieldName, apart]
    | true => simp [fieldName, linesField_inj]

end Sound

/-! ### Checks -/

variable {earlier languages : List Language}

theorem checkEntry_eq_ok {language : Language} :
    checkEntry earlier language = .ok () ↔
      ¬language.code.all CodePoint.isBlank ∧ language.code ∉ earlier.map Language.code ∧
        language.id ∉ earlier.map Language.id := by
  simp only [checkEntry, List.contains_iff_mem]
  split
  · simp_all
  · split
    · simp_all
    · split <;> simp_all

theorem checkEntries_eq_ok (codes : (earlier.map Language.code).Nodup)
    (ids : (earlier.map Language.id).Nodup) :
    checkEntries earlier languages = .ok () ↔
      (∀ language ∈ languages, ¬language.code.all CodePoint.isBlank) ∧
        ((earlier ++ languages).map Language.code).Nodup ∧
        ((earlier ++ languages).map Language.id).Nodup := by
  induction languages generalizing earlier with
  | nil => simp [checkEntries, codes, ids]
  | cons language rest ih =>
    have shifted : earlier ++ language :: rest = earlier ++ [language] ++ rest := by simp
    have next {α : Type} {field : Language → α} (distinct : (earlier.map field).Nodup)
        (fresh : field language ∉ earlier.map field) :
        ((earlier ++ [language]).map field).Nodup := by
      rw [List.map_append]
      exact distinct.append (List.nodup_singleton _) (by simpa using fresh)
    have fresh {α : Type} {field : Language → α}
        (distinct : ((earlier ++ [language] ++ rest).map field).Nodup) :
        field language ∉ earlier.map field := by
      rw [List.map_append, List.map_append] at distinct
      simpa using distinct.of_append_left.disjoint
    rw [checkEntries, bind_eq_ok, List.forall_mem_cons, shifted]
    constructor
    · rintro ⟨_, checked, later⟩
      rcases checkEntry_eq_ok.mp checked with ⟨visible, newCode, newId⟩
      rcases (ih (next codes newCode) (next ids newId)).mp later with ⟨visibles, distinct⟩
      exact ⟨⟨visible, visibles⟩, distinct⟩
    · rintro ⟨⟨visible, visibles⟩, codesAll, idsAll⟩
      have newCode := fresh codesAll
      have newId := fresh idsAll
      exact ⟨(), checkEntry_eq_ok.mpr ⟨visible, newCode, newId⟩,
        (ih (next codes newCode) (next ids newId)).mpr ⟨visibles, codesAll, idsAll⟩⟩

theorem checkCode_eq_ok {codes : List Text} {code : Text} :
    checkCode codes code = .ok () ↔ code ∉ reservedFields ∧ linesField code ∉ codes := by
  simp only [checkCode, List.contains_iff_mem]
  split
  · simp_all
  · split <;> simp_all

theorem checkEncodable_eq_ok {language : Language} :
    checkEncodable language = .ok () ↔
      language.code.isEncodable ∧ language.displayName.isEncodable := by
  unfold checkEncodable
  split <;> simp_all

/-- Languages are sound exactly if the checks, one after the other, let them pass. -/
theorem sound_iff_checks :
    Sound languages ↔
      languages ≠ [] ∧ checkEntries [] languages = .ok () ∧
        (languages.map Language.code).forM (checkCode (languages.map Language.code)) = .ok () ∧
        languages.forM checkEncodable = .ok () := by
  have entries := @checkEntries_eq_ok [] languages .nil .nil
  rw [List.nil_append] at entries
  simp only [entries, forM_eq_ok, checkCode_eq_ok, checkEncodable_eq_ok]
  constructor
  · intro sound
    exact ⟨sound.nonempty, ⟨sound.visible, sound.codes_distinct, sound.ids_distinct⟩,
      fun code member => ⟨sound.unreserved code member, sound.apart code member⟩, sound.encodable⟩
  · rintro ⟨nonempty, ⟨visible, codesDistinct, idsDistinct⟩, fields, encodable⟩
    exact ⟨nonempty, visible, codesDistinct, idsDistinct, fun code member => (fields code member).1,
      fun code member => (fields code member).2, encodable⟩

/-! ### Making a registry -/

/-- A language is found by a field in which no two languages agree. -/
theorem find?_field {α : Type} [DecidableEq α] {field : Language → α} {value : α} {language : Language}
    (distinct : (languages.map field).Nodup) :
    languages.find? (fun other => field other = value) = some language ↔
      language ∈ languages ∧ field language = value := by
  constructor
  · intro found
    have agrees := List.find?_some found
    exact ⟨List.mem_of_find?_eq_some found, of_decide_eq_true agrees⟩
  · rintro ⟨member, rfl⟩
    have known : (languages.find? (fun other => field other = field language)).isSome := by
      rw [List.find?_isSome]
      exact ⟨language, member, by simp⟩
    rcases Option.isSome_iff_exists.mp known with ⟨other, found⟩
    have agrees := List.find?_some found
    have same : field other = field language := of_decide_eq_true agrees
    rw [found, List.inj_on_of_nodup_map distinct (List.mem_of_find?_eq_some found) member same]

/-- The checks say when a registry can be made, and of what. -/
theorem ofLanguages_eq_ok {fallback : Text} {registry : Registry} :
    ofLanguages languages fallback = .ok registry ↔
      Sound languages ∧ registry.languages = languages ∧
        registry.fallback.code =
          if fallback.isEmpty then (languages.map Language.code).headD [] else fallback := by
  unfold ofLanguages
  extract_lets codes chosen
  split
  · rename_i empty
    simp [sound_iff_checks, List.isEmpty_iff.mp empty]
  rename_i nonempty
  split
  · rename_i fault failed
    simp [sound_iff_checks, failed]
  rename_i checked
  simp only [bind_eq_ok]
  constructor
  · rintro ⟨_, codesChecked, _, encodableChecked, made⟩
    have sound : Sound languages :=
      sound_iff_checks.mpr ⟨by simpa using nonempty, checked, codesChecked, encodableChecked⟩
    refine ⟨sound, ?_⟩
    split at made
    · cases made
    · rename_i language found
      have holds := List.find?_some found
      cases made
      exact ⟨rfl, of_decide_eq_true holds⟩
  · rintro ⟨sound, same, fallbackCode⟩
    rcases sound_iff_checks.mp sound with ⟨_, _, codesChecked, encodableChecked⟩
    have known := (find?_field sound.codes_distinct).mpr ⟨same ▸ registry.fallback_mem, fallbackCode⟩
    refine ⟨(), codesChecked, (), encodableChecked, ?_⟩
    split
    · rename_i unknown
      rw [known] at unknown
      cases unknown
    · rename_i language found
      have chosenSame : registry.fallback = language := by
        rw [known] at found
        exact Option.some.inj found
      cases registry
      subst same chosenSame
      rfl

/-- A registry is one that was made exactly if its languages are sound. -/
theorem accepted_iff {registry : Registry} : registry.Accepted ↔ Sound registry.languages := by
  constructor
  · rintro ⟨languages, fallback, made⟩
    rcases ofLanguages_eq_ok.mp made with ⟨sound, same, _⟩
    rwa [same]
  · intro sound
    have visible : ¬registry.fallback.code.isEmpty := by
      intro empty
      apply sound.visible _ registry.fallback_mem
      rw [List.isEmpty_iff.mp empty]
      rfl
    refine ⟨registry.languages, registry.fallback.code, ofLanguages_eq_ok.mpr ⟨sound, rfl, ?_⟩⟩
    rw [if_neg visible]

theorem accepted_builtIn : builtIn.Accepted := ⟨builtIn.languages, "en", by decide +kernel⟩

end Phrasebook.Registry
