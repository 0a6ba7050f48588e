import Phrasebook.Document.Source
import Phrasebook.Proofs.Document.Translation
import Phrasebook.Proofs.Json.Bounds

/-!
# Refused documents

A document that gives no tree is refused with a problem of documents, whatever is wrong with its bytes,
its length, its syntax or its form. A whole number with more digits than can be converted is the only
thing that ends the reading in another way: what can be read from a text can also be shown.
-/

namespace Phrasebook

/-- Whether a problem is one that a document is refused with. -/
def Problem.isOfDocument : Problem → Bool
  | .malformedSource _ _ | .sourceTooLarge _ _ | .missingKey _ _ | .invalidKey _ _
  | .incompleteTexts _ _ _ | .emptyNode _ _ => true
  | _ => false

namespace Document

open Outcome Format

/-! ### Documents of a wrong form -/

section Form

variable {codes : List Text} {problem : Problem} {key : Datum} {parent : Option Text} {index depth : Nat}
  {object : Fields} {item data : Datum}

theorem Format.HeadFault.isOfDocument (fault : HeadFault codes parent index object (.problem problem)) :
    problem.isOfDocument := by
  cases fault <;> rfl

theorem Format.Faulty.isOfDocument (faulty : Faulty codes parent index item (.problem problem)) :
    problem.isOfDocument := by
  generalize same : Fault.problem problem = fault at faulty
  induction faulty with
  | notObject | notArray =>
    cases same
    rfl
  | head wrong =>
    subst same
    exact wrong.isOfDocument
  | child _ _ _ _ ih => exact ih same

theorem Format.FaultyDocument.isOfDocument (faulty : FaultyDocument codes data (.problem problem)) :
    problem.isOfDocument := by
  cases faulty with
  | notArray => rfl
  | item _ wrong => exact wrong.isOfDocument

/-- What stands in the place of a key is a level below its object at least. -/
theorem Format.Faulty.key_bounded {owner : Option Text} (faulty : Faulty codes parent index item (.badKey key owner))
    (bounded : item.Bounded depth) : ∃ inner < depth, key.Bounded inner := by
  generalize same : Fault.badKey key owner = fault at faulty
  induction faulty generalizing depth with
  | notObject | notArray => cases same
  | head wrong =>
    subst same
    cases wrong with
    | notKey given => exact bounded.of_field given.1
  | child _ given _ _ ih =>
    rcases bounded.of_field given with ⟨children, below, bounded⟩
    rcases bounded.of_mem (List.mem_append_right _ List.mem_cons_self) with ⟨child, next, bounded⟩
    rcases ih bounded same with ⟨inner, last, bounded⟩
    exact ⟨inner, last.trans (next.trans below), bounded⟩

/-- What stands in the place of a key is two levels below the document at least. -/
theorem Format.FaultyDocument.key_bounded (faulty : FaultyDocument codes data (.badKey key parent))
    (bounded : data.Bounded depth) : ∃ inner, inner + 1 < depth ∧ key.Bounded inner := by
  cases faulty with
  | item _ wrong =>
    rcases bounded.of_mem (List.mem_append_right _ List.mem_cons_self) with ⟨item, below, bounded⟩
    rcases wrong.key_bounded bounded with ⟨inner, next, bounded⟩
    exact ⟨inner, Nat.lt_of_le_of_lt next below, bounded⟩

/-- The reading of a document ends with a problem of documents if the document can be read from a text. -/
theorem Format.FaultyDocument.failure_of_read [Host] {text : Text} {fault : Fault} (read : Json.read text = .ok data)
    (faulty : FaultyDocument codes data fault) :
    ∃ problem, fault.failure = .problem problem ∧ problem.isOfDocument := by
  cases fault with
  | problem problem => exact ⟨problem, rfl, faulty.isOfDocument⟩
  | badKey key parent =>
    rcases faulty.key_bounded (Json.bounded_of_read read) with ⟨inner, below, bounded⟩
    have room : inner < Host.keyDepth := by
      have law := Host.jsonDepth_le
      omega
    refine ⟨.invalidKey key.display parent, ?_, rfl⟩
    rw [Fault.failure, Failure.badKey, bounded.obstacle?_eq_none room]

end Form

/-! ### Texts and bytes -/

section Sources

variable [Host] {registry : Registry} {limit : Int} {text : Text} {failure : Failure}

omit [Host] in
/-- A fault of syntax is a problem of the document, unless a number is too long. -/
theorem jsonFailure_cases (fault : Json.Fault) :
    (∃ problem, jsonFailure fault = .problem problem ∧ problem.isOfDocument) ∨
      ∃ digits, fault = .numberTooLong digits := by
  cases fault with
  | malformed | tooDeep => exact Or.inl ⟨_, rfl, rfl⟩
  | numberTooLong digits => exact Or.inr ⟨digits, rfl⟩

/-- What ends the reading of a text: its length, a fault of its syntax, or a fault of the document that
is written in it. -/
theorem readText_eq_error :
    (readText (some registry) limit text).result = .error failure ↔
      (limit < text.length ∧ .problem (.sourceTooLarge text.length limit) = failure) ∨
      (text.length ≤ limit ∧
        ((∃ fault, Json.read text = .error fault ∧ jsonFailure fault = failure) ∨
          ∃ data, Json.read text = .ok data ∧
            ∃ fault, FaultyDocument registry.codes data fault ∧ failure = fault.failure)) := by
  unfold readText
  split
  · rename_i long
    simp only [long, true_and, Int.not_le.mpr long, false_and, or_false, reported_throw,
      Except.error.injEq]
  · rename_i short
    simp only [short, false_and, false_or, Int.not_lt.mp short, true_and, reported_bind_eq_error,
      reported_ofExcept, mapError_eq_error, mapError_eq_ok, readDecoded, readData_eq_error]

/-- The reading of a text ends at a long number exactly if that of its syntax does. -/
theorem readText_eq_numberTooLong {digits : Nat} :
    (readText (some registry) limit text).result = .error (.numberTooLong digits) ↔
      text.length ≤ limit ∧ Json.read text = .error (.numberTooLong digits) := by
  rw [readText_eq_error]
  constructor
  · rintro (⟨_, other⟩ | ⟨fits, ⟨fault, stopped, same⟩ | ⟨_, read, _, faulty, same⟩⟩)
    · cases other
    · rcases jsonFailure_cases fault with ⟨problem, refused, _⟩ | ⟨count, rfl⟩
      · cases refused.symm.trans same
      · cases same
        exact ⟨fits, stopped⟩
    · rcases faulty.failure_of_read read with ⟨problem, refused, _⟩
      cases same.trans refused
  · rintro ⟨fits, stopped⟩
    exact Or.inr ⟨fits, Or.inl ⟨_, stopped, rfl⟩⟩

/-- A failure of the reading of a text is a problem of the document, or a long number in the text. -/
theorem readText_failure_cases (failed : (readText (some registry) limit text).result = .error failure) :
    (∃ problem, failure = .problem problem ∧ problem.isOfDocument) ∨
      ∃ digits, failure = .numberTooLong digits ∧ Json.digitLimit < digits ∧ text.HasDigits digits := by
  rcases readText_eq_error.mp failed with
    ⟨_, rfl⟩ | ⟨fits, ⟨fault, stopped, rfl⟩ | ⟨data, read, fault, faulty, rfl⟩⟩
  · exact Or.inl ⟨_, rfl, rfl⟩
  · rcases jsonFailure_cases fault with ⟨problem, refused, ofDocument⟩ | ⟨digits, rfl⟩
    · exact Or.inl ⟨problem, refused, ofDocument⟩
    · exact Or.inr ⟨digits, rfl, Json.read_eq_numberTooLong stopped⟩
  · exact Or.inl (faulty.failure_of_read read)

theorem readBytes_of_fault {bytes : Utf8.Bytes} {fault : Utf8.Fault}
    (undecoded : Utf8.decodeAfterMark bytes = .error fault) :
    (readBytes (some registry) limit bytes).result = .error (bytesFailure fault) := by
  rw [readBytes, undecoded]
  rfl

theorem readBytes_of_text {bytes : Utf8.Bytes} (decoded : Utf8.decodeAfterMark bytes = .ok text) :
    (readBytes (some registry) limit bytes).result = (readText (some registry) limit text).result := by
  rw [readBytes, decoded]
  rfl

end Sources

/-- A text gives a tree or is refused with a problem of documents, unless it is short enough to be read
and has a whole number with more digits than can be converted. Bytes are refused, or end as the text does
that they encode. -/
theorem refuses_unless_long_number [Host] (registry : Registry) (limit : Int) :
    (∀ text,
      (∃ tree, (readText (some registry) limit text).result = .ok tree) ∨
      (∃ problem, (readText (some registry) limit text).result = .error (.problem problem) ∧
        problem.isOfDocument) ∨
      ∃ digits, (readText (some registry) limit text).result = .error (.numberTooLong digits) ∧
        Json.digitLimit < digits ∧ text.HasDigits digits) ∧
    (∀ text digits, (readText (some registry) limit text).result = .error (.numberTooLong digits) ↔
      text.length ≤ limit ∧ Json.read text = .error (.numberTooLong digits)) ∧
    ∀ bytes,
      (∃ problem, (readBytes (some registry) limit bytes).result = .error (.problem problem) ∧
        problem.isOfDocument) ∨
      ∃ text, Utf8.decodeAfterMark bytes = .ok text ∧
        (readBytes (some registry) limit bytes).result = (readText (some registry) limit text).result := by
  refine ⟨?text, ?number, ?bytes⟩
  case text =>
    intro text
    cases result : (readText (some registry) limit text).result with
    | ok tree => exact Or.inl ⟨tree, rfl⟩
    | error failure =>
      rcases readText_failure_cases result with ⟨problem, rfl, ofDocument⟩ | ⟨digits, rfl, long⟩
      · exact Or.inr (Or.inl ⟨problem, rfl, ofDocument⟩)
      · exact Or.inr (Or.inr ⟨digits, rfl, long⟩)
  case number =>
    intro text digits
    exact readText_eq_numberTooLong
  case bytes =>
    intro bytes
    cases decoded : Utf8.decodeAfterMark bytes with
    | error fault => exact Or.inl ⟨_, readBytes_of_fault decoded, rfl⟩
    | ok text => exact Or.inr ⟨text, rfl, readBytes_of_text decoded⟩

section Example

open Host.Plain

/-- A text of ones, one more than can be converted, is neither read nor refused. -/
theorem long_number_escapes :
    (readText (some .builtIn) defaultLimit (List.replicate 4301 (.scalar '1'))).result =
      .error (.numberTooLong 4301) := by
  have ones : List.replicate 4301 (CodePoint.scalar '1') =
      .scalar '1' :: List.replicate 4300 (.scalar '1') := List.replicate_succ
  have digits : ∀ digit ∈ .scalar '1' :: List.replicate 4300 (CodePoint.scalar '1'),
      digit.isAsciiDigit := by
    intro digit member
    rw [← ones] at member
    rw [List.eq_of_mem_replicate member]
    rfl
  have length : (.scalar '1' :: List.replicate 4300 (CodePoint.scalar '1')).length = 4301 := by
    rw [List.length_cons, List.length_replicate]
  apply readText_eq_numberTooLong.mpr
  constructor
  · rw [List.length_replicate]
    decide
  · have stopped := Json.read_of_digits digits (by decide) (by rw [length]; decide)
    rwa [length, ← ones] at stopped

end Example

end Document

end Phrasebook
