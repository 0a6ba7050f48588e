import Phrasebook.Event
import Phrasebook.Failure
import Phrasebook.Language.Locale
import Phrasebook.Unicode.Blank

/-!
# Languages and registries

A registry is the ordered list of the languages that resources are written in, one of which is the
fallback. Codes and identity numbers are not repeated, and no code can be taken for another field of
a resource object.
-/

namespace Phrasebook

/-- A language. -/
structure Language where
  /-- A number that stays the same when languages are reordered. -/
  id : Int
  /-- The name of its field in resource objects. -/
  code : Text
  /-- The name to show in a choice of languages. -/
  displayName : Text
deriving DecidableEq, Repr

namespace Document

/-- The field of a resource object that holds its key. -/
def keyField : Text := "key"

/-- The field that holds the children. -/
def childrenField : Text := "strings"

/-- The field that says whether lines are joined without breaks. -/
def flagField : Text := "exclude_newline"

/-- The field that holds the text of a language in lines. -/
def linesField (code : Text) : Text := code ++ "_long"

/-- The fields that no language may have for its code. -/
def reservedFields : List Text := [keyField, childrenField, flagField]

end Document

/-- A fixed, ordered choice of languages. -/
structure Registry where
  languages : List Language
  /-- The language used when a node lacks the one that is asked for. -/
  fallback : Language
  fallback_mem : fallback ∈ languages
  codes_distinct : (languages.map Language.code).Nodup
  ids_distinct : (languages.map Language.id).Nodup
deriving DecidableEq

namespace Registry

/-- Checks one language after those before it. -/
def checkEntry (earlier : List Language) (language : Language) : Except RegistryFault Unit :=
  if language.code.all CodePoint.isBlank then .error (.emptyCode language.id)
  else if (earlier.map Language.code).contains language.code then
    .error (.duplicateCode language.code)
  else if (earlier.map Language.id).contains language.id then .error (.duplicateId language.id)
  else .ok ()

/-- Checks languages in order. -/
def checkEntries (earlier : List Language) : List Language → Except RegistryFault Unit
  | [] => .ok ()
  | language :: rest => do
    checkEntry earlier language
    checkEntries (earlier ++ [language]) rest

/-- Checks that a code can be told from the other fields of resource objects. -/
def checkCode (codes : List Text) (code : Text) : Except RegistryFault Unit :=
  if Document.reservedFields.contains code then .error (.reservedCode code)
  else if codes.contains (Document.linesField code) then .error (.linesCode code)
  else .ok ()

/-- Checks that a language can be written as UTF-8. -/
def checkEncodable (language : Language) : Except RegistryFault Unit :=
  if language.code.isEncodable && language.displayName.isEncodable then .ok ()
  else .error (.loneSurrogate language.id)

/-- A checked language repeats neither a code nor an identity number. -/
theorem checkEntry_ok {earlier : List Language} {language : Language}
    (checked : checkEntry earlier language = .ok ()) :
    language.code ∉ earlier.map Language.code ∧ language.id ∉ earlier.map Language.id := by
  unfold checkEntry at checked
  split at checked
  · cases checked
  · split at checked
    · cases checked
    · split at checked
      · cases checked
      · simp_all

theorem checkEntries_distinct {α : Type} (field : Language → α)
    (isNew : ∀ earlier language, checkEntry earlier language = .ok () →
      field language ∉ earlier.map field)
    {earlier languages : List Language} (distinct : (earlier.map field).Nodup)
    (checked : checkEntries earlier languages = .ok ()) :
    ((earlier ++ languages).map field).Nodup := by
  induction languages generalizing earlier with
  | nil => simpa using distinct
  | cons language rest ih =>
    cases first : checkEntry earlier language with
    | error fault => simp [checkEntries, first, bind, Except.bind] at checked
    | ok _ =>
      simp only [checkEntries, first, bind, Except.bind] at checked
      have := @ih (earlier ++ [language]) ?_ checked
      · simpa using this
      · rw [List.map_append, List.nodup_append]
        have := isNew earlier language first
        refine ⟨distinct, by simp, ?_⟩
        intro value member other single
        simp only [List.map_cons, List.map_nil, List.mem_singleton] at single
        rintro rfl
        exact this (single ▸ member)

/-- Makes a registry of languages; no fallback code means the first language. -/
def ofLanguages (languages : List Language) (fallback : Text) : Except RegistryFault Registry :=
  let codes := languages.map Language.code
  if languages.isEmpty then .error .noLanguages
  else
    match checked : checkEntries [] languages with
    | .error fault => .error fault
    | .ok _ => do
      codes.forM (checkCode codes)
      languages.forM checkEncodable
      let code := if fallback.isEmpty then codes.headD [] else fallback
      match found : languages.find? (·.code = code) with
      | none => throw (.unknownFallback code)
      | some language =>
        return {
          languages
          fallback := language
          fallback_mem := List.mem_of_find?_eq_some found
          codes_distinct :=
            checkEntries_distinct Language.code (fun _ _ ok => (checkEntry_ok ok).1) (by simp) checked
          ids_distinct :=
            checkEntries_distinct Language.id (fun _ _ ok => (checkEntry_ok ok).2) (by simp) checked }

/-- Makes a registry, or fails as the fault of the languages says. -/
def make (languages : List Language) (fallback : Text) : Except Failure Registry :=
  (ofLanguages languages fallback).mapError Failure.ofRegistryFault

/-- The registry that is used when none is configured. -/
def builtIn : Registry where
  languages := [⟨0, "ja", "日本語"⟩, ⟨1, "en", "English"⟩]
  fallback := ⟨1, "en", "English"⟩
  fallback_mem := by simp
  codes_distinct := by decide
  ids_distinct := by decide

/-- The codes in order. -/
def codes (registry : Registry) : List Text := registry.languages.map Language.code

/-- The display names in order. -/
def displayNames (registry : Registry) : List Text :=
  registry.languages.map Language.displayName

/-- The language with a code. -/
def find? (registry : Registry) (code : Text) : Option Language :=
  registry.languages.find? (·.code = code)

/-- Whether a language has a code. -/
def contains (registry : Registry) (code : Text) : Bool := (registry.find? code).isSome

/-- The language with a code, or the problem that there is none. -/
def get (registry : Registry) (code : Text) : Except Problem Language :=
  match registry.find? code with
  | some language => .ok language
  | none => .error (.unknownCode code registry.codes)

/-- The language with an identity number, or the failure that there is none. -/
def byId (registry : Registry) (id : Int) : Except Failure Language :=
  match registry.languages.find? (·.id = id) with
  | some language => .ok language
  | none => .error (.unknownId id registry.codes)

/-- The language of a locale: that of the whole code, that of the code with dashes for underscores,
that of the first subtag, or else the fallback. -/
def matchLocale (registry : Registry) (locale : Option Text) : Language :=
  match locale with
  | none | some [] => registry.fallback
  | some code =>
    let dashed := code.replace '_' "-"
    let base := Text.firstPiece '_' (Locale.normalize code)
    ([code, dashed, base].findSome? registry.find?).getD registry.fallback

end Registry

end Phrasebook
