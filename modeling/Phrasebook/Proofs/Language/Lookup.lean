import Phrasebook.Proofs.Language.Registry
import Phrasebook.Proofs.Number.Numeral

/-!
# Look-ups of languages

A registry is made of languages exactly if they are sound and the fallback that is asked for, if one is, is
among them. Whatever it was made of, its look-ups know exactly its languages: each is found by its code and by
its identity number, and for any other code or number the answer is the problem that there is none. Where a
message shows an identity number with more digits than can be written, there is a failure in its place.
-/

namespace Phrasebook.Registry

open Outcome

variable {languages : List Language} {registry : Registry} {language : Language}

/-! ### Look-ups by code -/

theorem find?_eq_some {code : Text} :
    registry.find? code = some language ↔ language ∈ registry.languages ∧ language.code = code :=
  find?_field registry.codes_distinct

theorem get_eq_ok {code : Text} :
    registry.get code = .ok language ↔ language ∈ registry.languages ∧ language.code = code := by
  rw [← find?_eq_some, get]
  split <;> simp_all

theorem get_eq_error {code : Text} {problem : Problem} (refused : registry.get code = .error problem) :
    registry.find? code = none := by
  rw [get] at refused
  split at refused
  · cases refused
  · assumption

/-- A language of a registry is found by its code. -/
theorem get_code (member : language ∈ registry.languages) : registry.get language.code = .ok language :=
  get_eq_ok.mpr ⟨member, rfl⟩

theorem exists_get_iff {code : Text} :
    (∃ language, registry.get code = .ok language) ↔ code ∈ registry.codes := by
  rw [codes, List.mem_map]
  simp only [get_eq_ok]

theorem get_of_unknown {code : Text} (unknown : code ∉ registry.codes) :
    registry.get code = .error (.unknownCode code registry.codes) := by
  rw [get]
  split
  · rename_i language found
    rcases find?_eq_some.mp found with ⟨member, rfl⟩
    exact absurd (List.mem_map_of_mem member) unknown
  · rfl

theorem contains_iff {code : Text} : registry.contains code ↔ code ∈ registry.codes := by
  rw [contains, Option.isSome_iff_exists, codes, List.mem_map]
  simp only [find?_eq_some]

/-! ### Look-ups by identity number -/

theorem byId_eq_ok {id : Int} :
    registry.byId id = .ok language ↔ language ∈ registry.languages ∧ language.id = id := by
  rw [← find?_field registry.ids_distinct, byId]
  split
  · rename_i other found
    rw [found, Except.ok.injEq, Option.some.injEq]
  · rename_i absent
    simp only [absent, reduceCtorEq]

theorem byId_of_unknown {id : Int} (unknown : id ∉ registry.languages.map Language.id) :
    registry.byId id = .error (.unknownId id registry.codes) := by
  rw [byId]
  split
  · rename_i language found
    rcases (find?_field registry.ids_distinct).mp found with ⟨member, rfl⟩
    exact absurd (List.mem_map_of_mem member) unknown
  · rfl

theorem unknownId_of_short {id : Int} (short : id.natAbs < 10 ^ Numeral.digitLimit) (known : List Text) :
    Failure.unknownId id known = .problem (.unknownLanguage (Numeral.integer id) known) := by
  rw [Failure.unknownId, if_neg]
  rwa [Numeral.isTooLong_iff, Nat.not_le]

theorem unknownId_of_long {id : Int} (long : 10 ^ Numeral.digitLimit ≤ id.natAbs) (known : List Text) :
    Failure.unknownId id known = .numberUnwritable :=
  if_pos ((Numeral.isTooLong_iff id).mpr long)

/-! ### All look-ups -/

/-- The look-ups of a registry know some languages, and no others. -/
structure Knows (registry : Registry) (languages : List Language) : Prop where
  /-- The languages are kept in their order. -/
  inOrder : registry.languages = languages
  byCode : ∀ code language, registry.get code = .ok language ↔ language ∈ languages ∧ language.code = code
  unknownCode : ∀ code ∉ registry.codes, registry.get code = .error (.unknownCode code registry.codes)
  byNumber : ∀ id language, registry.byId id = .ok language ↔ language ∈ languages ∧ language.id = id
  unknownNumber : ∀ id ∉ languages.map Language.id, id.natAbs < 10 ^ Numeral.digitLimit →
    registry.byId id = .error (.problem (.unknownLanguage (Numeral.integer id) registry.codes))
  /-- There is no message that shows the number. -/
  longNumber : ∀ id ∉ languages.map Language.id, 10 ^ Numeral.digitLimit ≤ id.natAbs →
    registry.byId id = .error .numberUnwritable
  contained : ∀ code, registry.contains code ↔ code ∈ registry.codes
  /-- The fallback is one of the languages, and is found by its code. -/
  fallback : registry.fallback ∈ languages ∧ registry.get registry.fallback.code = .ok registry.fallback

theorem knows_languages (registry : Registry) : registry.Knows registry.languages where
  inOrder := rfl
  byCode _ _ := get_eq_ok
  unknownCode _ := get_of_unknown
  byNumber _ _ := byId_eq_ok
  unknownNumber _ unknown short := by rw [byId_of_unknown unknown, unknownId_of_short short]
  longNumber _ unknown long := by rw [byId_of_unknown unknown, unknownId_of_long long]
  contained _ := contains_iff
  fallback := ⟨registry.fallback_mem, get_code registry.fallback_mem⟩

/-! ### Making a registry -/

/-- The code that a registry takes for its fallback: the one that is asked for, or else the first. -/
def chosenFallback (languages : List Language) (fallback : Text) : Text :=
  if fallback.isEmpty then (languages.map Language.code).headD [] else fallback

theorem exists_ofLanguages_iff {fallback : Text} :
    (∃ registry, ofLanguages languages fallback = .ok registry) ↔
      Sound languages ∧ chosenFallback languages fallback ∈ languages.map Language.code := by
  constructor
  · rintro ⟨registry, made⟩
    rcases ofLanguages_eq_ok.mp made with ⟨sound, rfl, chosen⟩
    refine ⟨sound, ?_⟩
    rw [chosenFallback, ← chosen]
    exact List.mem_map_of_mem registry.fallback_mem
  · rintro ⟨sound, offered⟩
    rcases List.mem_map.mp offered with ⟨language, member, chosen⟩
    exact ⟨⟨languages, language, member, sound.codes_distinct, sound.ids_distinct⟩,
      ofLanguages_eq_ok.mpr ⟨sound, rfl, chosen⟩⟩

/-- A number that the first fault of languages shows is that of one of them. -/
theorem id_mem_of_checkEntry {earlier : List Language} {fault : RegistryFault} {id : Int}
    (failed : checkEntry earlier language = .error fault) (shown : fault.id? = some id) : id = language.id := by
  unfold checkEntry at failed
  split at failed
  · cases failed
    exact (Option.some.inj shown).symm
  · split at failed
    · cases failed
      cases shown
    · split at failed
      · cases failed
        exact (Option.some.inj shown).symm
      · cases failed

theorem id_mem_of_checkEntries {earlier : List Language} {fault : RegistryFault} {id : Int}
    (failed : checkEntries earlier languages = .error fault) (shown : fault.id? = some id) :
    id ∈ languages.map Language.id := by
  induction languages generalizing earlier with
  | nil => cases failed
  | cons language rest ih =>
    rcases bind_eq_error.mp failed with here | ⟨_, _, later⟩
    · rw [id_mem_of_checkEntry here shown]
      exact List.mem_cons_self
    · exact List.mem_cons_of_mem _ (ih later)

theorem id?_of_checkCode {codes : List Text} {code : Text} {fault : RegistryFault}
    (failed : checkCode codes code = .error fault) : fault.id? = none := by
  unfold checkCode at failed
  split at failed
  · cases failed
    rfl
  · split at failed
    · cases failed
      rfl
    · cases failed

theorem id_mem_of_ofLanguages {fallback : Text} {fault : RegistryFault} {id : Int}
    (failed : ofLanguages languages fallback = .error fault) (shown : fault.id? = some id) :
    id ∈ languages.map Language.id := by
  unfold ofLanguages at failed
  extract_lets codes chosen at failed
  split at failed
  · cases failed
    cases shown
  · split at failed
    · rename_i checked
      cases failed
      exact id_mem_of_checkEntries checked shown
    · rcases bind_eq_error.mp failed with reserved | ⟨_, _, failed⟩
      · rcases exists_of_forM_eq_error reserved with ⟨code, _, here⟩
        rw [id?_of_checkCode here] at shown
        cases shown
      · rcases bind_eq_error.mp failed with surrogate | ⟨_, _, failed⟩
        · rcases exists_of_forM_eq_error surrogate with ⟨language, member, here⟩
          unfold checkEncodable at here
          split at here <;> cases here
          rw [← Option.some.inj shown]
          exact List.mem_map_of_mem member
        · split at failed
          · cases failed
            cases shown
          · cases failed

/-- How the making of a registry ends for a fault of its languages. -/
inductive EndsIn (fault : RegistryFault) : Failure → Prop
  | written (short : ∀ id, fault.id? = some id → id.natAbs < 10 ^ Numeral.digitLimit) :
      EndsIn fault (.problem (.invalidRegistry fault))
  | unwritable {id : Int} (shown : fault.id? = some id) (long : 10 ^ Numeral.digitLimit ≤ id.natAbs) :
      EndsIn fault .numberUnwritable

theorem endsIn_iff {fault : RegistryFault} {failure : Failure} :
    EndsIn fault failure ↔ Failure.ofRegistryFault fault = failure := by
  cases shown : fault.id? with
  | none =>
    rw [Failure.ofRegistryFault, shown, Option.any_none, if_neg Bool.false_ne_true]
    constructor
    · rintro (_ | ⟨other, _⟩)
      · rfl
      · cases shown.symm.trans other
    · rintro rfl
      exact .written (by simp [shown])
  | some id =>
    rw [Failure.ofRegistryFault, shown, Option.any_some]
    have tooLong := Numeral.isTooLong_iff id
    constructor
    · rintro (short | ⟨same, long⟩)
      · rw [if_neg (mt tooLong.mp (Nat.not_le.mpr (short id shown)))]
      · cases shown.symm.trans same
        rw [if_pos (tooLong.mpr long)]
    · rintro rfl
      split
      · rename_i long
        exact .unwritable shown (tooLong.mp long)
      · rename_i short
        refine .written fun other same => ?_
        cases shown.symm.trans same
        exact Nat.not_le.mp (mt tooLong.mpr short)

theorem make_eq_ok {fallback : Text} :
    make languages fallback = .ok registry ↔ ofLanguages languages fallback = .ok registry :=
  mapError_eq_ok

theorem make_eq_error {fallback : Text} {failure : Failure} :
    make languages fallback = .error failure ↔
      ∃ fault, ofLanguages languages fallback = .error fault ∧ EndsIn fault failure := by
  simp only [make, mapError_eq_error, endsIn_iff]

/-- A registry is made of languages exactly if they are sound and have the fallback; anything else has a
fault, and ends as an invalid registry, unless the fault shows the number of one of the languages and it has
more digits than can be written. A registry that is made knows these languages and no others, and falls back
to the code that was asked for, or to the first one. -/
theorem made_iff_sound (languages : List Language) (fallback : Text) :
    ((∃ registry, make languages fallback = .ok registry) ↔
      Sound languages ∧ chosenFallback languages fallback ∈ languages.map Language.code) ∧
    ((∃ fault, ofLanguages languages fallback = .error fault) ↔
      ¬(Sound languages ∧ chosenFallback languages fallback ∈ languages.map Language.code)) ∧
    (∀ failure, make languages fallback = .error failure ↔
      ∃ fault, ofLanguages languages fallback = .error fault ∧ EndsIn fault failure) ∧
    (∀ fault id, ofLanguages languages fallback = .error fault → fault.id? = some id →
      id ∈ languages.map Language.id) ∧
    (∀ fault, (Problem.invalidRegistry fault).diagnostic.code = .invalidRegistry) ∧
    ∀ registry, make languages fallback = .ok registry →
      registry.Knows languages ∧ registry.fallback.code = chosenFallback languages fallback := by
  simp only [make_eq_ok]
  refine ⟨exists_ofLanguages_iff, ?refused, fun _ => make_eq_error, fun _ _ => id_mem_of_ofLanguages,
    fun _ => rfl, ?made⟩
  case refused =>
    rw [← exists_ofLanguages_iff]
    cases ofLanguages languages fallback with
    | ok registry => simp
    | error fault => simp
  case made =>
    intro registry made
    rcases ofLanguages_eq_ok.mp made with ⟨_, rfl, chosen⟩
    exact ⟨registry.knows_languages, chosen⟩

/-- Languages whose codes look like the field for lines of a code that is not among them. -/
theorem made_iff_sound_unshadowed :
    ∃ registry, make [⟨7, "zh-Hant", "中文"⟩, ⟨-1, "en_long", "English"⟩] "en_long" = .ok registry ∧
      registry.byId (-1) = .ok ⟨-1, "en_long", "English"⟩ ∧ registry.fallback.code = "en_long" := by
  have rules := made_iff_sound [⟨7, "zh-Hant", "中文"⟩, ⟨-1, "en_long", "English"⟩] "en_long"
  have sound : Sound [⟨7, "zh-Hant", "中文"⟩, ⟨-1, "en_long", "English"⟩] :=
    sound_iff_checks.mpr (by decide +kernel)
  rcases rules.1.mpr ⟨sound, by decide⟩ with ⟨registry, made⟩
  rcases rules.2.2.2.2.2 registry made with ⟨knows, chosen⟩
  exact ⟨registry, made, (knows.byNumber _ _).mpr ⟨by simp, rfl⟩, chosen⟩

theorem ofLanguages_of_repeated {id : Int} {code other name otherName : Text} (fallback : Text)
    (visible : ¬code.all CodePoint.isBlank) (otherVisible : ¬other.all CodePoint.isBlank) (apart : other ≠ code) :
    ofLanguages [⟨id, code, name⟩, ⟨id, other, otherName⟩] fallback = .error (.duplicateId id) := by
  have checked : checkEntries [] [⟨id, code, name⟩, ⟨id, other, otherName⟩] = .error (.duplicateId id) := by
    simp [checkEntries, checkEntry, visible, otherVisible, apart, bind, Except.bind]
  rw [ofLanguages, if_neg (by simp)]
  split
  · rename_i failed
    cases checked.symm.trans failed
    rfl
  · rename_i passed
    cases checked.symm.trans passed

/-- The least number with more digits than can be written. -/
def longNumber : Int := (10 ^ Numeral.digitLimit : Nat)

/-- Two languages with one number that is too long to be written make no registry, and no invalid one. -/
theorem long_numbers_escape :
    make [⟨longNumber, "a", "A"⟩, ⟨longNumber, "b", "B"⟩] [] = .error .numberUnwritable := by
  have repeated : ofLanguages [⟨longNumber, "a", "A"⟩, ⟨longNumber, "b", "B"⟩] [] =
      .error (.duplicateId longNumber) :=
    ofLanguages_of_repeated [] (by decide) (by decide) (by decide)
  refine make_eq_error.mpr ⟨_, repeated, .unwritable rfl ?_⟩
  exact Nat.le_of_eq (Int.natAbs_natCast _).symm

end Phrasebook.Registry
