import Phrasebook.Language.Reader
import Phrasebook.Proofs.Document.Refusal
import Phrasebook.Proofs.File.UntakenPath
import Phrasebook.Proofs.Language.Registry
import Phrasebook.Proofs.Settings.Table
import Phrasebook.Settings.Load

/-!
# Inputs that cannot be loaded

Settings, languages and documents are refused if they cannot be read or are wrong. For each of them there are
a few inputs that end the loading in a failure of another kind, which nobody who loads them reckons with.
-/

namespace Phrasebook

open Outcome

/-! ### Settings -/

/-- Whether a failure is one of those that files of settings are known to have. -/
def Failure.isOfSettings : Failure → Bool
  | .file _ _ | .settings _ | .undecodable _ | .numberTooLong _ => true
  | _ => false

namespace Settings

variable [Host]

/-- The loading of a file of settings ends in a failure that such files are not known to have. -/
inductive Escapes (disk : Disk) (path : FilePath) : Failure → Prop
  | tooDeep {content : Utf8.Bytes} {text : Text} (read : disk.read path = .ok content)
      (decoded : Utf8.decode content = .ok text) (deep : Toml.read text = .error .tooDeep) :
      Escapes disk path .nestedTooDeep
  | toolsNotTable {content : Utf8.Bytes} {text : Text} {table : Fields} {value : Datum}
      (read : disk.read path = .ok content) (decoded : Utf8.decode content = .ok text)
      (parsed : Toml.read text = .ok table) (given : table.get? "tool" = some value)
      (other : ∀ tools, value ≠ .record tools) : Escapes disk path (.toolsNotTable value.kindName)
  | unshowable {content : Utf8.Bytes} {text : Text} {table settings : Fields}
      (read : disk.read path = .ok content) (decoded : Utf8.decode content = .ok text)
      (parsed : Toml.read text = .ok table) (given : toolTable? table = .ok (some (.record settings)))
      (deep : ofTable settings (some path.parent) = .error .nestedTooDeep) : Escapes disk path .nestedTooDeep

variable {disk : Disk} {path : FilePath} {failure : Failure}

omit [Host] in
theorem toolTable?_eq_error {table : Fields} :
    toolTable? table = .error failure ↔
      ∃ value, table.get? "tool" = some value ∧ (∀ tools, value ≠ .record tools) ∧
        failure = .toolsNotTable value.kindName := by
  unfold toolTable?
  split
  · rename_i absent
    simp [absent]
  · rename_i tools given
    simp [given]
  · rename_i value other given
    rw [Except.error.injEq, given]
    constructor
    · rintro rfl
      exact ⟨value, rfl, other, rfl⟩
    · rintro ⟨_, ⟨⟩, _, rfl⟩
      rfl

/-- Settings in a table that is there are loaded, or are unsuitable, or cannot be displayed. -/
theorem unsuitable_of_table {value : Option Datum}
    (failed : (match value with
      | none => do
        Reported.report (.settingsAbsent path.display)
        return initial
      | some (.record settings) => ofTable settings (some path.parent)
      | some _ => throw (.settings (.notATable path)) : Reported Failure Settings).result = .error failure) :
    failure.isOfSettings ∨ ∃ settings, value = some (.record settings) ∧
      ofTable settings (some path.parent) = .error .nestedTooDeep ∧ failure = .nestedTooDeep := by
  split at failed
  · simp at failed
  · rename_i settings
    rw [reported_lift] at failed
    cases refuses_of_ofTable failed with
    | fault => exact Or.inl rfl
    | tooDeep => exact Or.inr ⟨settings, rfl, failed, rfl⟩
  · cases failed
    exact Or.inl rfl

theorem load_eq_error :
    (load disk path).result = .error failure ∧ ¬failure.isOfSettings ↔ Escapes disk path failure := by
  simp only [load, reported_bind_eq_error, reported_ofExcept, mapError_eq_error, mapError_eq_ok,
    reported_lift]
  constructor
  · rintro ⟨failed, unknown⟩
    rcases failed with ⟨fault, _, rfl⟩ | ⟨content, read, failed⟩
    · exact absurd rfl unknown
    rcases failed with ⟨fault, _, rfl⟩ | ⟨text, decoded, failed⟩
    · exact absurd rfl unknown
    rcases failed with ⟨fault, refused, rfl⟩ | ⟨table, parsed, failed⟩
    · cases fault with
      | malformed | numberTooLong => exact absurd rfl unknown
      | tooDeep => exact .tooDeep read decoded refused
    rcases failed with noTable | ⟨value, given, failed⟩
    · rcases toolTable?_eq_error.mp noTable with ⟨value, given, other, rfl⟩
      exact .toolsNotTable read decoded parsed given other
    · rcases unsuitable_of_table failed with known | ⟨settings, rfl, deep, rfl⟩
      · exact absurd known unknown
      · exact .unshowable read decoded parsed given deep
  · rintro (⟨read, decoded, deep⟩ | ⟨read, decoded, parsed, given, other⟩ | ⟨read, decoded, parsed, given, deep⟩)
    · exact ⟨Or.inr ⟨_, read, Or.inr ⟨_, decoded, Or.inl ⟨_, deep, rfl⟩⟩⟩, Bool.false_ne_true⟩
    · have noTable := toolTable?_eq_error.mpr ⟨_, given, other, rfl⟩
      exact ⟨Or.inr ⟨_, read, Or.inr ⟨_, decoded, Or.inr ⟨_, parsed, Or.inl noTable⟩⟩⟩, Bool.false_ne_true⟩
    · exact ⟨Or.inr ⟨_, read, Or.inr ⟨_, decoded, Or.inr ⟨_, parsed, Or.inr ⟨_, given, deep⟩⟩⟩⟩,
        Bool.false_ne_true⟩

end Settings

/-! ### Languages -/

/-- Whether a failure is one of those that resources and devices are known to have: a problem, a fault of a
file system that takes the path, or a stream whose device fails. -/
def Failure.isOfResource : Failure → Bool
  | .problem _ | .stream (.device _) => true
  | .file fault _ | .temporaryFile fault _ => !fault.isOfPath
  | _ => false

namespace Registry

variable [Host]

/-- The loading of languages ends in a failure that resources are not known to have. -/
inductive Escapes (disk : Disk) (path : FilePath) : Failure → Prop
  | undecodable {content : Utf8.Bytes} {fault : Utf8.Fault} (read : disk.read path = .ok content)
      (undecoded : TextFile.read content = .error fault) : Escapes disk path (.undecodable fault)
  | numberTooLong {content : Utf8.Bytes} {text : Text} {digits : Nat} (read : disk.read path = .ok content)
      (decoded : TextFile.read content = .ok text) (long : Json.read text = .error (.numberTooLong digits)) :
      Escapes disk path (.numberTooLong digits)
  | tooDeep {content : Utf8.Bytes} {text : Text} (read : disk.read path = .ok content)
      (decoded : TextFile.read content = .ok text) (deep : Json.read text = .error .tooDeep) :
      Escapes disk path .nestedTooDeep

variable {disk : Disk} {path : FilePath} {failure : Failure}

omit [Host] in
/-- Only a name that is too long keeps one from knowing whether there is a file. -/
theorem isFile_eq_error {fault : FileFault} (unknown : disk.isFile path = .error fault) :
    fault = .nameTooLong := by
  unfold Disk.isFile at unknown
  split at unknown <;> cases unknown
  rfl

theorem load_eq_error :
    (load disk (some path)).result = .error failure ∧ ¬failure.isOfResource ↔ Escapes disk path failure := by
  simp only [load, reported_bind_eq_error, reported_ofExcept, mapError_eq_error, mapError_eq_ok]
  constructor
  · rintro ⟨⟨fault, refused, rfl⟩ | ⟨isThere, found, failed⟩, unknown⟩
    · rcases isFile_eq_error refused with rfl
      exact absurd rfl unknown
    cases isThere with
    -- Where there is no file, the languages are those that are built in.
    | false => simp at failed
    | true =>
      rcases Disk.isFile_eq_true.mp found with ⟨content, reads⟩
      simp only [if_true, reads, reported_bind_eq_error, reported_ofExcept, mapError_eq_error, mapError_eq_ok,
        reduceCtorEq, false_and, exists_false, false_or, Except.ok.injEq, exists_eq_left', read,
        reported_mapError, reported_report, reported_pure, and_false, or_false] at failed
      rcases failed with ⟨fault, undecoded, rfl⟩ | ⟨text, decoded, failed⟩
      · exact .undecodable reads undecoded
      rcases failed with ⟨fault, refused, rfl⟩ | ⟨_, _, _, _, rfl⟩
      · cases fault with
        | malformed => exact absurd rfl unknown
        | numberTooLong digits => exact .numberTooLong reads decoded refused
        | tooDeep => exact .tooDeep reads decoded refused
      · exact absurd rfl unknown
  · intro escapes
    have isThere {content : Utf8.Bytes} (reads : disk.read path = .ok content) :
        disk.isFile path = .ok true :=
      Disk.isFile_eq_true.mpr ⟨content, reads⟩
    rcases escapes with ⟨reads, undecoded⟩ | ⟨reads, decoded, long⟩ | ⟨reads, decoded, deep⟩
    · refine ⟨Or.inr ⟨true, isThere reads, ?_⟩, Bool.false_ne_true⟩
      simp [reads, undecoded]
    · refine ⟨Or.inr ⟨true, isThere reads, ?_⟩, Bool.false_ne_true⟩
      simp [reads, decoded, read, long, jsonFailure]
    · refine ⟨Or.inr ⟨true, isThere reads, ?_⟩, Bool.false_ne_true⟩
      simp [reads, decoded, read, deep, jsonFailure]

/-- Languages that are loaded have passed all checks. -/
theorem accepted_of_load {path : Option FilePath} {registry : Registry}
    (loaded : (load disk path).result = .ok registry) : registry.Accepted := by
  cases path with
  | none =>
    cases loaded
    exact accepted_builtIn
  | some path =>
    simp only [load, reported_bind_eq_ok] at loaded
    rcases loaded with ⟨isThere, _, loaded⟩
    split at loaded
    · simp only [reported_bind_eq_ok, read, ofDatum, reported_mapError, mapError_eq_ok, reported_lift,
        reported_pure, Except.ok.injEq] at loaded
      rcases loaded with ⟨_, _, _, _, _, ⟨_, _, fallback, _, _, _, languages, _, made⟩, _, _, rfl⟩
      exact ⟨languages, fallback, made⟩
    · simp only [reported_bind_eq_ok, reported_pure, Except.ok.injEq] at loaded
      rcases loaded with ⟨_, _, rfl⟩
      exact accepted_builtIn

end Registry

/-! ### Documents -/

namespace Document

variable [Host]

/-- The loading of a document ends in a failure that resources are not known to have. -/
inductive Escapes (disk : Disk) (path : FilePath) : Failure → Prop
  | untaken {fault : FileFault} (found : Disk.pathFault? path = some fault) :
      Escapes disk path (.file fault [path])
  | numberTooLong {content : Utf8.Bytes} {text : Text} {digits : Nat} (read : disk.read path = .ok content)
      (decoded : Utf8.decodeAfterMark content = .ok text) (short : text.length ≤ defaultLimit)
      (long : Json.read text = .error (.numberTooLong digits)) : Escapes disk path (.numberTooLong digits)

variable {registry : Registry} {disk : Disk} {path : FilePath} {failure : Failure}

theorem load_eq_error :
    (load (some registry) disk path).result = .error failure ∧ ¬failure.isOfResource ↔
      Escapes disk path failure := by
  simp only [load, reported_bind_eq_error, reported_ofExcept, mapError_eq_error, mapError_eq_ok,
    reported_report, reduceCtorEq, false_or, true_and, exists_const]
  constructor
  · rintro ⟨⟨fault, refused, rfl⟩ | ⟨content, reads, failed⟩, unknown⟩
    · have ofPath : fault.isOfPath := by
        simpa [Failure.isOfResource, Failure.atPath] using unknown
      exact .untaken ((Disk.read_eq_error_of_isOfPath ofPath).mp refused)
    · cases decoded : Utf8.decodeAfterMark content with
      | error fault =>
        rw [readBytes_of_fault decoded] at failed
        cases failed
        exact absurd rfl unknown
      | ok text =>
        rw [readBytes_of_text decoded] at failed
        rcases readText_failure_cases failed with ⟨problem, rfl, _⟩ | ⟨digits, rfl, _⟩
        · exact absurd rfl unknown
        · rcases readText_eq_numberTooLong.mp failed with ⟨short, long⟩
          exact .numberTooLong reads decoded short long
  · rintro (found | ⟨reads, decoded, short, long⟩)
    · have ofPath := Disk.isOfPath_of_pathFault? found
      refine ⟨Or.inl ⟨_, (Disk.read_eq_error_of_isOfPath ofPath).mpr found, rfl⟩, ?_⟩
      simp [Failure.isOfResource, ofPath]
    · refine ⟨Or.inr ⟨_, reads, ?_⟩, Bool.false_ne_true⟩
      rw [readBytes_of_text decoded]
      exact readText_eq_numberTooLong.mpr ⟨short, long⟩

end Document

end Phrasebook
