import Phrasebook.Language.Reader
import Phrasebook.Proofs.Document.Format
import Phrasebook.Proofs.Json.Bounds
import Phrasebook.Proofs.Json.Nesting
import Phrasebook.Proofs.Language.Lookup

/-!
# Configurations of registries

What a configuration says is defined here without its reader: each entry describes a language, which has its
position for a number and its name for itself where the entry is silent, and the configuration lists the
entries, alone or beside the code of the fallback. The reader makes exactly the registries that are configured
by sound languages. Whatever else is written in a text of JSON makes an invalid registry; only where the text
has a number that is too long, or is nested too deep, does the reading end in another way.
-/

namespace Phrasebook

open Outcome
open Document.Format (Unset)

namespace Locale

/-- The name that a language with a code shows: the one that the host has for it, with a capital letter, or
else the code. -/
inductive Shows [Host] (code : Text) : Text → Prop
  | name {first : CodePoint} {rest : Text} (known : Host.localeName (normalize code) = .ok (first :: rest)) :
      Shows code (first.upper ++ rest)
  | nameless (known : Host.localeName (normalize code) = .ok []) : Shows code code
  | unknown {reason : Text} (unknown : Host.localeName (normalize code) = .error reason) : Shows code code

theorem displayName_eq_ok [Host] {ε : Type} {code name : Text} :
    (displayName code : Reported ε Text).result = .ok name ↔ Shows code name := by
  unfold displayName
  constructor
  · intro shown
    split at shown
    · rename_i unknown
      cases shown
      exact .unknown unknown
    · rename_i found known
      cases found with
      | nil =>
        cases shown
        exact .nameless known
      | cons first rest =>
        cases shown
        exact .name known
  · rintro (known | known | unknown)
    · rw [known]
      rfl
    · rw [known]
      rfl
    · rw [unknown]
      rfl

end Locale

namespace Registry

/-! ### What a configuration says -/

/-- The identity number of the language that an entry at a position describes. -/
inductive NumberOf (position : Nat) (entry : Fields) : Int → Prop
  | given {id : Int} (given : entry.get? "id" = some (.int id)) : NumberOf position entry id
  | position (absent : entry.get? "id" = none) : NumberOf position entry position

/-- The name to show of the language that an entry with a code describes. -/
inductive NameOf [Host] (code : Text) (entry : Fields) : Text → Prop
  | given {name : Text} (given : entry.get? "display" = some (.text name)) : NameOf code entry name
  | own {name : Text} (unset : Unset entry "display") (shown : Locale.Shows code name) : NameOf code entry name

/-- A value at a position describes a language. -/
inductive Describes [Host] : Datum × Nat → Language → Prop
  | intro {position : Nat} {entry : Fields} {id : Int} {code name : Text}
      (coded : entry.get? "code" = some (.text code)) (visible : ¬code.all CodePoint.isBlank)
      (numbered : NumberOf position entry id) (named : NameOf code entry name) :
      Describes (.record entry, position) ⟨id, code, name⟩

/-- The code of the fallback that an object gives, which is empty if it gives none. -/
inductive FallbackOf (object : Fields) : Text → Prop
  | given {code : Text} (given : object.get? "fallback" = some (.text code)) : FallbackOf object code
  | unset (unset : Unset object "fallback") : FallbackOf object []

/-- A value configures languages, and the code of the fallback. -/
inductive Configures [Host] : Datum → List Language → Text → Prop
  | array {entries : List Datum} {languages : List Language}
      (described : List.Forall₂ Describes entries.zipIdx languages) : Configures (.list entries) languages []
  | object {object : Fields} {entries : List Datum} {languages : List Language} {fallback : Text}
      (listed : object.get? "languages" = some (.list entries))
      (described : List.Forall₂ Describes entries.zipIdx languages) (chosen : FallbackOf object fallback) :
      Configures (.record object) languages fallback

/-! ### Reading entries -/

section Entries

variable {entry : Fields} {position : Nat} {code : Text}

theorem entryCode?_eq_some :
    entryCode? entry = some code ↔
      entry.get? "code" = some (.text code) ∧ ¬code.all CodePoint.isBlank := by
  unfold entryCode?
  split
  · rename_i given found
    rw [found]
    split
    · rename_i blank
      simp only [reduceCtorEq, Option.some.injEq, Datum.text.injEq, false_iff, not_and, not_not]
      rintro rfl
      exact blank
    · rename_i visible
      simp only [Option.some.injEq, Datum.text.injEq, iff_self_and]
      rintro rfl
      exact visible
  · rename_i other
    simp only [reduceCtorEq, false_iff, not_and]
    intro found
    exact absurd found (other code)

theorem entryId?_eq_some {id : Int} : entryId? position entry = some id ↔ NumberOf position entry id := by
  unfold entryId?
  constructor
  · intro read
    split at read
    · rename_i absent
      cases read
      exact .position absent
    · rename_i given
      cases read
      exact .given given
    · cases read
  · rintro (given | absent)
    · rw [given]
    · rw [absent]

theorem entryName_eq_ok [Host] {name : Text} :
    (entryName code entry).result = .ok name ↔ NameOf code entry name := by
  unfold entryName
  constructor
  · intro read
    split at read
    · rename_i absent
      exact .own (Or.inl absent) (Locale.displayName_eq_ok.mp read)
    · rename_i null
      exact .own (Or.inr null) (Locale.displayName_eq_ok.mp read)
    · rename_i given
      cases read
      exact .given given
    · cases read
  · rintro (given | ⟨absent | null, shown⟩)
    · rw [given]
      rfl
    · rw [absent]
      exact Locale.displayName_eq_ok.mpr shown
    · rw [null]
      exact Locale.displayName_eq_ok.mpr shown

theorem readEntry_eq_ok [Host] {value : Datum} {language : Language} :
    (readEntry position value).result = .ok language ↔ Describes (value, position) language := by
  constructor
  · intro read
    unfold readEntry at read
    split at read
    · split at read
      · cases read
      · rename_i coded
        rcases entryCode?_eq_some.mp coded with ⟨found, visible⟩
        split at read
        · cases read
        · rename_i numbered
          simp only [reported_bind_eq_ok, reported_pure, Except.ok.injEq] at read
          rcases read with ⟨name, named, rfl⟩
          exact .intro found visible (entryId?_eq_some.mp numbered) (entryName_eq_ok.mp named)
    · cases read
  · rintro ⟨coded, visible, numbered, named⟩
    rw [readEntry, entryCode?_eq_some.mpr ⟨coded, visible⟩]
    dsimp only
    rw [entryId?_eq_some.mpr numbered]
    dsimp only
    rw [reported_bind_of_ok (entryName_eq_ok.mpr named)]
    rfl

theorem readEntries_eq_ok [Host] {entries : List Datum} {languages : List Language} :
    (readEntries position entries).result = .ok languages ↔
      List.Forall₂ Describes (entries.zipIdx position) languages := by
  induction entries generalizing position languages with
  | nil =>
    rw [readEntries, reported_pure, List.zipIdx_nil, List.forall₂_nil_left_iff, Except.ok.injEq, eq_comm]
  | cons value rest ih =>
    simp only [readEntries, reported_bind_eq_ok, reported_pure, Except.ok.injEq, List.zipIdx_cons,
      readEntry_eq_ok, ih]
    constructor
    · rintro ⟨language, described, others, later, rfl⟩
      exact .cons described later
    · rintro (_ | ⟨described, later⟩)
      exact ⟨_, described, _, later, rfl⟩

end Entries

/-! ### Reading configurations -/

section Values

variable {value : Datum} {languages : List Language} {fallback : Text} {registry : Registry}

theorem configuredFallback_record {object : Fields} :
    configuredFallback (.record object) = .ok fallback ↔ FallbackOf object fallback := by
  simp only [configuredFallback]
  constructor
  · intro read
    split at read
    · rename_i absent
      cases read
      exact .unset (Or.inl absent)
    · rename_i null
      cases read
      exact .unset (Or.inr null)
    · rename_i given
      cases read
      exact .given given
    · cases read
  · rintro (given | (absent | null))
    · rw [given]
    · rw [absent]
    · rw [null]

theorem configuredEntries_record {object : Fields} {entries : List Datum} :
    configuredEntries (.record object) = .ok entries ↔ object.get? "languages" = some (.list entries) := by
  simp only [configuredEntries]
  split
  · rename_i found
    rw [found, Except.ok.injEq, Option.some.injEq, Datum.list.injEq]
  · rename_i other
    simp only [reduceCtorEq, false_iff]
    exact other entries

/-- What a value configures is what is read of it. -/
theorem configures_iff [Host] :
    Configures value languages fallback ↔
      configuredFallback value = .ok fallback ∧
        ∃ entries, configuredEntries value = .ok entries ∧ (readEntries 0 entries).result = .ok languages := by
  simp only [readEntries_eq_ok]
  constructor
  · rintro (described | ⟨listed, described, chosen⟩)
    · exact ⟨rfl, _, rfl, described⟩
    · exact ⟨configuredFallback_record.mpr chosen, _, configuredEntries_record.mpr listed, described⟩
  · rintro ⟨chosen, entries, listed, described⟩
    cases value with
    | list =>
      cases chosen
      cases listed
      exact .array described
    | record object =>
      exact .object (configuredEntries_record.mp listed) described (configuredFallback_record.mp chosen)
    | null | bool | int | real | text | moment => cases listed

theorem ofDatum_eq_ok [Host] :
    (ofDatum value).result = .ok registry ↔
      ∃ languages fallback, Configures value languages fallback ∧
        ofLanguages languages fallback = .ok registry := by
  simp only [ofDatum, reported_bind_eq_ok, reported_lift, configures_iff]
  constructor
  · rintro ⟨fallback, chosen, entries, listed, languages, read, made⟩
    exact ⟨languages, fallback, ⟨chosen, entries, listed, read⟩, made⟩
  · rintro ⟨languages, fallback, ⟨chosen, entries, listed, read⟩, made⟩
    exact ⟨fallback, chosen, entries, listed, languages, read, made⟩

end Values

/-! ### Texts -/

section Texts

variable [Host] {text : Text} {registry : Registry} {failure : Failure}

theorem read_eq_ok :
    (read text).result = .ok registry ↔
      ∃ value languages fallback, Json.read text = .ok value ∧ Configures value languages fallback ∧
        ofLanguages languages fallback = .ok registry := by
  simp only [read, reported_bind_eq_ok, reported_ofExcept, reported_mapError, mapError_eq_ok, ofDatum_eq_ok,
    exists_and_left]

/-- What ends the reading of a text: a fault of its syntax, or one of the value that is written in it. -/
theorem read_eq_error :
    (read text).result = .error failure ↔
      (∃ fault, Json.read text = .error fault ∧ jsonFailure fault = failure) ∨
        ∃ value fault, Json.read text = .ok value ∧ (ofDatum value).result = .error fault ∧
          .problem (.invalidRegistry fault) = failure := by
  simp only [read, reported_bind_eq_error, reported_ofExcept, reported_mapError, mapError_eq_error,
    mapError_eq_ok, exists_and_left]

theorem read_eq_numberTooLong {digits : Nat} :
    (read text).result = .error (.numberTooLong digits) ↔ Json.read text = .error (.numberTooLong digits) := by
  rw [read_eq_error]
  constructor
  · rintro (⟨fault, stopped, same⟩ | ⟨_, _, _, _, other⟩)
    · cases fault with
      | numberTooLong count =>
        cases same
        exact stopped
      | malformed | tooDeep => cases same
    · cases other
  · intro stopped
    exact Or.inl ⟨_, stopped, rfl⟩

theorem read_eq_nestedTooDeep :
    (read text).result = .error .nestedTooDeep ↔ Json.read text = .error .tooDeep := by
  rw [read_eq_error]
  constructor
  · rintro (⟨fault, stopped, same⟩ | ⟨_, _, _, _, other⟩)
    · cases fault with
      | tooDeep => exact stopped
      | malformed | numberTooLong => cases same
    · cases other
  · intro stopped
    exact Or.inl ⟨_, stopped, rfl⟩

/-- A failure of the reading is an invalid registry, unless the reader of JSON stops at a number or at the
nesting. -/
theorem read_failure_cases (failed : (read text).result = .error failure) :
    (∃ fault, failure = .problem (.invalidRegistry fault)) ∨
      (∃ digits, failure = .numberTooLong digits ∧ Json.read text = .error (.numberTooLong digits)) ∨
      (failure = .nestedTooDeep ∧ Json.read text = .error .tooDeep) := by
  rcases read_eq_error.mp failed with ⟨fault, stopped, rfl⟩ | ⟨_, fault, _, _, rfl⟩
  · cases fault with
    | malformed => exact Or.inl ⟨_, rfl⟩
    | numberTooLong digits => exact Or.inr (Or.inl ⟨digits, rfl, stopped⟩)
    | tooDeep => exact Or.inr (Or.inr ⟨rfl, stopped⟩)
  · exact Or.inl ⟨fault, rfl⟩

/-- The number of a language that is described can be written, if it was read from a text or is a position that
can be. -/
theorem Describes.not_isTooLong {position depth : Nat} {value : Datum} {language : Language}
    (described : Describes (value, position) language) (bounded : value.Bounded depth)
    (few : position < 10 ^ Numeral.digitLimit) : ¬Numeral.isTooLong language.id := by
  cases described with
  | intro _ _ numbered =>
    cases numbered with
    | given given =>
      rcases bounded.of_field given with ⟨_, _, short⟩
      exact short.2
    | position =>
      rw [Numeral.isTooLong_iff, Int.natAbs_natCast, Nat.not_le]
      exact few

theorem entries_bounded {value : Datum} {entries : List Datum} (found : Json.read text = .ok value)
    (listed : configuredEntries value = .ok entries) : ∀ entry ∈ entries, ∃ depth, entry.Bounded depth := by
  have whole := Json.bounded_of_read found
  intro entry member
  cases value with
  | list items =>
    cases listed
    rcases whole.of_mem member with ⟨inner, _, bounded⟩
    exact ⟨inner, bounded⟩
  | record object =>
    rcases whole.of_field (configuredEntries_record.mp listed) with ⟨_, _, bounded⟩
    rcases bounded.of_mem member with ⟨inner, _, bounded⟩
    exact ⟨inner, bounded⟩
  | null | bool | int | real | text | moment => cases listed

/-- What ends the reading of a text ends the making of its registry in the same way: the numbers in the messages
can be written, unless there are more entries than a number that can be written tells. -/
theorem ofRegistryFault_of_read {value : Datum} {entries : List Datum} {languages : List Language}
    {fallback : Text} {fault : RegistryFault} (found : Json.read text = .ok value)
    (listed : configuredEntries value = .ok entries) (described : List.Forall₂ Describes entries.zipIdx languages)
    (few : entries.length ≤ 10 ^ Numeral.digitLimit) (failed : ofLanguages languages fallback = .error fault) :
    make languages fallback = .error (.problem (.invalidRegistry fault)) := by
  refine make_eq_error.mpr ⟨fault, failed, .written ?_⟩
  intro id shown
  rcases List.mem_map.mp (id_mem_of_ofLanguages failed shown) with ⟨language, member, rfl⟩
  rcases List.mem_iff_get.mp member with ⟨index, rfl⟩
  have bound : index.val < entries.zipIdx.length := by
    rw [described.length_eq]
    exact index.isLt
  have here := described.get bound index.isLt
  rw [List.length_zipIdx] at bound
  rw [List.get_eq_getElem, List.getElem_zipIdx, Nat.zero_add] at here
  rcases entries_bounded found listed _ (List.getElem_mem bound) with ⟨depth, bounded⟩
  have short := here.not_isTooLong bounded (Nat.lt_of_lt_of_le bound few)
  rwa [Numeral.isTooLong_iff, Nat.not_le] at short

end Texts

/-- The registries that a text gives are those of the sound languages that are configured in it, with the
fallback that is. A text gives a registry or is refused as an invalid one, unless the reader of JSON stops at
a number that is too long or at arrays and objects that are nested too deep. -/
theorem configures_unless_decoder_stops [Host] (text : Text) :
    (∀ registry, (read text).result = .ok registry ↔
      ∃ value languages fallback, Json.read text = .ok value ∧ Configures value languages fallback ∧
        Sound languages ∧ registry.languages = languages ∧
        registry.fallback.code = chosenFallback languages fallback) ∧
    ((∃ registry, (read text).result = .ok registry) ∨
      (∃ problem, (read text).result = .error (.problem problem) ∧
        problem.diagnostic.code = .invalidRegistry) ∨
      (∃ digits, (read text).result = .error (.numberTooLong digits) ∧
        Json.digitLimit < digits ∧ text.HasDigits digits) ∨
      (read text).result = .error .nestedTooDeep) ∧
    (∀ digits, (read text).result = .error (.numberTooLong digits) ↔
      Json.read text = .error (.numberTooLong digits)) ∧
    ((read text).result = .error .nestedTooDeep ↔ Json.read text = .error .tooDeep) := by
  refine ⟨?registries, ?endings, fun _ => read_eq_numberTooLong, read_eq_nestedTooDeep⟩
  case registries =>
    intro registry
    simp only [read_eq_ok, ofLanguages_eq_ok, chosenFallback]
  case endings =>
    cases result : (read text).result with
    | ok registry => exact Or.inl ⟨registry, rfl⟩
    | error failure =>
      rcases read_failure_cases result with ⟨fault, rfl⟩ | ⟨digits, rfl, stopped⟩ | ⟨rfl, _⟩
      · exact Or.inr (Or.inl ⟨_, rfl, rfl⟩)
      · exact Or.inr (Or.inr (Or.inl ⟨digits, rfl, Json.read_eq_numberTooLong stopped⟩))
      · exact Or.inr (Or.inr (Or.inr rfl))

section Example

open Host.Plain

/-- A number of ones, with one more than can be converted, and arrays that open and open again are neither
read nor refused. -/
theorem long_number_and_nesting_escape :
    (read (List.replicate 4301 '1')).result = .error (.numberTooLong 4301) ∧
      (read (List.replicate 100000 '[')).result = .error .nestedTooDeep := by
  refine ⟨read_eq_numberTooLong.mpr ?number, read_eq_nestedTooDeep.mpr ?nesting⟩
  case number => exact Json.read_of_repeated_digit (by decide) (by decide) (by decide)
  case nesting =>
    have split : 100000 = Host.jsonDepth + 1 + 98999 := rfl
    rw [split, ← List.replicate_append_replicate]
    exact Json.read_of_nesting _

end Example

end Registry

end Phrasebook
