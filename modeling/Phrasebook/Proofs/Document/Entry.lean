import Phrasebook.Proofs.Document.Format
import Phrasebook.Proofs.Outcome
import Phrasebook.Proofs.Text.Utf8
import Phrasebook.Proofs.Texts

/-!
# Reading objects by the format

Each step of the reading of an object, the key, the flag, the text of one code and the texts of all
codes, answers exactly what the rules of the format allow, and fails exactly with the fault that the
rules put first. The reading of the whole object follows from its steps.
-/

namespace Phrasebook.Document

open Format Outcome
open Utf8 (firstSurrogate?_eq_none)

/-! ### Fields -/

theorem given?_eq_none {object : Fields} {name : Text} :
    given? object name = none ↔ Unset object name := by
  unfold given? Unset
  split <;> simp_all

theorem given?_eq_some {object : Fields} {name : Text} {value : Datum} :
    given? object name = some value ↔ Holds object name value := by
  unfold given? Holds
  split
  · simp_all
  · rename_i found
    simp only [found, reduceCtorEq, Option.some.injEq, false_iff, not_and]
    intro same
    simp [← same]
  · rename_i given notNull found
    simp only [found, Option.some.injEq]
    constructor
    · rintro rfl
      exact ⟨rfl, notNull⟩
    · exact fun holds => holds.1

theorem not_unset_of_holds {object : Fields} {name : Text} {value : Datum}
    (holds : Holds object name value) : ¬Unset object name := by
  rw [← given?_eq_none, given?_eq_some.mpr holds]
  simp

theorem holds_of_given {object : Fields} {name : Text} {value : Datum}
    (given : object.get? name = some value) (set : value ≠ .null) : Holds object name value :=
  ⟨given, set⟩

/-! ### The key -/

theorem readKey_eq_ok {parent : Option Text} {index : Nat} {object : Fields} {key : Text} :
    readKey parent index object = .ok key ↔ HasKey object key := by
  constructor
  · intro read
    unfold readKey at read
    split at read
    · cases read
    · rename_i name found
      split at read
      · rename_i valid
        cases read
        exact ⟨(given?_eq_some.mp found).1, valid⟩
      · cases read
    · cases read
  · rintro ⟨given, valid⟩
    have found : given? object keyField = some (.text key) :=
      given?_eq_some.mpr ⟨given, by simp⟩
    simp [readKey, found, valid]

theorem readKey_eq_error {parent : Option Text} {index : Nat} {object : Fields} {fault : Fault} :
    readKey parent index object = .error fault ↔
      (Unset object keyField ∧ fault = .problem (.missingKey parent index)) ∨
        ∃ value, Holds object keyField value ∧
          (∀ key, value = .text key → ¬Key.isValid key) ∧ fault = .badKey value parent := by
  unfold readKey
  split
  · rename_i found
    have unset := given?_eq_none.mp found
    constructor
    · intro failed
      cases failed
      exact Or.inl ⟨unset, rfl⟩
    · rintro (⟨_, rfl⟩ | ⟨value, holds, _⟩)
      · rfl
      · exact absurd unset (not_unset_of_holds holds)
  · rename_i name found
    have given := given?_eq_some.mp found
    constructor
    · intro failed
      split at failed
      · cases failed
      · rename_i invalid
        cases failed
        refine Or.inr ⟨_, given, ?_, rfl⟩
        rintro key same
        cases same
        exact invalid
    · rintro (⟨unset, _⟩ | ⟨value, holds, invalid, rfl⟩)
      · exact absurd unset (not_unset_of_holds given)
      · have same : value = .text name := by
          simpa using holds.1.symm.trans given.1
        subst same
        simp [invalid name rfl]
  · rename_i value notText found
    have given := given?_eq_some.mp found
    constructor
    · intro failed
      cases failed
      refine Or.inr ⟨value, given, ?_, rfl⟩
      rintro key rfl
      exact absurd rfl (notText key)
    · rintro (⟨unset, _⟩ | ⟨other, holds, _, rfl⟩)
      · exact absurd unset (not_unset_of_holds given)
      · have same : other = value := by simpa using holds.1.symm.trans given.1
        rw [same]

/-! ### The flag -/

/-- What stands between lines under a flag. -/
def joinerFor (flag : Bool) : Text := if flag then [] else "\n"

theorem joiner_of_readFlag {keyPath : Text} {object : Fields} {flag : Bool}
    (read : readFlag keyPath object = .ok flag) : Joiner object (joinerFor flag) := by
  unfold readFlag at read
  split at read
  · rename_i absent
    cases read
    exact .unflagged absent
  · rename_i given
    cases read
    exact .flagged _ given
  · cases read

theorem readFlag_of_joiner (keyPath : Text) {object : Fields} {joiner : Text}
    (joined : Joiner object joiner) :
    ∃ flag, readFlag keyPath object = .ok flag ∧ joinerFor flag = joiner := by
  cases joined with
  | unflagged absent => exact ⟨false, by simp [readFlag, absent], rfl⟩
  | flagged value given => exact ⟨value, by simp [readFlag, given], rfl⟩

theorem readFlag_eq_error {keyPath : Text} {object : Fields} {problem : Problem} :
    readFlag keyPath object = .error problem ↔
      ∃ value, object.get? flagField = some value ∧ (∀ flag, value ≠ .bool flag) ∧
        problem = .malformedSource .flagNotBoolean (some keyPath) := by
  unfold readFlag
  split
  · simp_all
  · rename_i value given
    simp only [given, reduceCtorEq, Option.some.injEq, ne_eq, false_iff, not_exists, not_and]
    rintro _ rfl notBool
    exact absurd rfl (notBool value)
  · rename_i value notBool given
    simp only [given, Except.error.injEq, Option.some.injEq]
    constructor
    · rintro rfl
      exact ⟨value, rfl, notBool, rfl⟩
    · rintro ⟨_, _, _, rfl⟩
      rfl

/-! ### Texts -/

theorem firstSurrogate?_eq_some {text : Text} {position : Nat} :
    Utf8.firstSurrogate? text = some position ↔ FirstSurrogate text position := by
  unfold Utf8.firstSurrogate?
  induction text generalizing position with
  | nil => simp [FirstSurrogate]
  | cons point rest ih =>
    rw [List.findIdx?_cons]
    cases point with
    | surrogate offset =>
      simp only [CodePoint.isSurrogate, if_true, Option.some.injEq]
      constructor
      · rintro rfl
        exact ⟨[], offset, rest, rfl, rfl, rfl⟩
      · rintro ⟨before, _, _, split, encodable, rfl⟩
        cases before with
        | nil => rfl
        | cons first _ =>
          cases split
          simp [Text.isEncodable, CodePoint.isSurrogate] at encodable
    | scalar char =>
      simp only [CodePoint.isSurrogate, Bool.false_eq_true, if_false, Option.map_eq_some_iff, ih]
      constructor
      · rintro ⟨_, ⟨before, offset, after, rfl, encodable, rfl⟩, rfl⟩
        refine ⟨.scalar char :: before, offset, after, rfl, ?_, rfl⟩
        simpa [Text.isEncodable, CodePoint.isSurrogate] using encodable
      · rintro ⟨before, offset, after, split, encodable, rfl⟩
        cases before with
        | nil => cases split
        | cons first before =>
          cases split
          refine ⟨before.length, ⟨before, offset, after, rfl, ?_, rfl⟩, rfl⟩
          simpa [Text.isEncodable, CodePoint.isSurrogate] using encodable

theorem checkText_eq_ok {keyPath field text checked : Text} :
    checkText keyPath field text = .ok checked ↔ text.isEncodable ∧ text = checked := by
  unfold checkText
  split
  · rename_i none
    simp [firstSurrogate?_eq_none.mp none]
  · rename_i found
    have : ¬text.isEncodable := by
      rw [← firstSurrogate?_eq_none, found]
      simp
    simp [this]

theorem checkText_eq_error {keyPath field text : Text} {problem : Problem} :
    checkText keyPath field text = .error problem ↔
      ∃ position, FirstSurrogate text position ∧
        problem = .malformedSource (.loneSurrogate field position) (some keyPath) := by
  unfold checkText
  simp only [← firstSurrogate?_eq_some]
  split
  · rename_i none
    simp [none]
  · rename_i found
    simp [found, eq_comm]

theorem lines?_eq_some {items : List Datum} {lines : List Text} :
    lines? items = some lines ↔ items = lines.map .text := by
  fun_induction lines? items generalizing lines with
  | case1 => cases lines <;> simp
  | case2 line rest ih => cases lines <;> simp [ih, and_comm]
  | case3 item rest notText =>
    cases lines with
    | nil => simp
    | cons line _ => simpa using fun same => absurd same (notText line)

theorem lines?_eq_none {items : List Datum} : lines? items = none ↔ ¬IsLines (.list items) := by
  rw [Option.eq_none_iff_forall_ne_some]
  simp [IsLines, lines?_eq_some]

/-- A text that is read for a code is the one that the format gives. -/
theorem readCode_eq_ok {keyPath joiner : Text} {object : Fields} {code : Text}
    {given : Option Text} :
    readCode keyPath joiner object code = .ok given ↔ TextOf joiner object code given := by
  constructor
  · intro read
    unfold readCode at read
    split at read
    · rename_i text found
      simp only [bind_eq_ok, checkText_eq_ok, pure_eq_ok] at read
      rcases read with ⟨_, ⟨encodable, rfl⟩, rfl⟩
      exact .piece (given?_eq_some.mp found).1 encodable
    · cases read
    · rename_i noPiece
      rw [given?_eq_none] at noPiece
      split at read
      · rename_i unset
        cases read
        exact .absent noPiece (given?_eq_none.mp unset)
      · rename_i value found
        have holds := given?_eq_some.mp found
        unfold readLines at read
        split at read
        · rename_i items
          split at read
          · cases read
          · rename_i noLines
            cases read
            exact .noLines noPiece (by simpa [lines?_eq_some.mp noLines] using holds.1)
          · rename_i lines nonempty linesRead
            simp only [bind_eq_ok, checkText_eq_ok, pure_eq_ok] at read
            rcases read with ⟨_, ⟨encodable, rfl⟩, rfl⟩
            exact .lines noPiece (by rw [holds.1, lines?_eq_some.mp linesRead]) nonempty encodable
        · cases read
  · intro given
    cases given with
    | piece given encodable =>
      have found := given?_eq_some.mpr (holds_of_given given (by simp))
      simp [readCode, found, checkText_eq_ok, encodable]
    | lines noPiece given nonempty encodable =>
      have found := given?_eq_some.mpr (holds_of_given given (by simp))
      simp only [readCode, given?_eq_none.mpr noPiece, found, readLines, lines?_eq_some.mpr rfl]
      simp [checkText_eq_ok, encodable]
    | noLines noPiece given =>
      have found := given?_eq_some.mpr (holds_of_given given (by simp))
      simp [readCode, given?_eq_none.mpr noPiece, found, readLines, lines?]
    | absent noPiece unset =>
      simp [readCode, given?_eq_none.mpr noPiece, given?_eq_none.mpr unset]

theorem readLines_eq_error {keyPath field joiner : Text} {value : Datum} {problem : Problem} :
    readLines keyPath field joiner value = .error problem ↔
      ∃ fault, problem = .malformedSource fault (some keyPath) ∧
        ((¬IsLines value ∧ fault = .linesNotStrings field) ∨
          ∃ lines : List Text, ∃ position, value = .list (lines.map .text) ∧
            FirstSurrogate (Text.joinWith joiner lines) position ∧
            fault = .loneSurrogate field position) := by
  constructor
  · intro failed
    unfold readLines at failed
    split at failed
    · rename_i items
      split at failed
      · rename_i notLines
        cases failed
        exact ⟨_, rfl, Or.inl ⟨lines?_eq_none.mp notLines, rfl⟩⟩
      · cases failed
      · rename_i lines _ linesRead
        simp only [bind_eq_error, checkText_eq_error, pure_ne_error, and_false, exists_false,
          or_false] at failed
        rcases failed with ⟨position, first, rfl⟩
        refine ⟨_, rfl, Or.inr ⟨lines, position, ?_, first, rfl⟩⟩
        rw [lines?_eq_some.mp linesRead]
    · rename_i notList
      cases failed
      refine ⟨_, rfl, Or.inl ⟨?_, rfl⟩⟩
      rintro ⟨lines, rfl⟩
      exact notList _ rfl
  · rintro ⟨fault, rfl, ⟨notLines, rfl⟩ | ⟨lines, position, rfl, first, rfl⟩⟩
    · unfold readLines
      split
      · rw [lines?_eq_none.mpr notLines]
      · rfl
    · have nonempty : lines ≠ [] := by
        rintro rfl
        rcases first with ⟨before, _, _, split, _⟩
        cases before <;> cases split
      simp only [readLines, lines?_eq_some.mpr rfl]
      simpa [checkText_eq_error] using first

/-- A fault met for a code is the one that the format gives. -/
theorem readCode_eq_error {keyPath joiner : Text} {object : Fields} {code : Text}
    {problem : Problem} :
    readCode keyPath joiner object code = .error problem ↔
      ∃ fault, TextFault joiner object code fault ∧
        problem = .malformedSource fault (some keyPath) := by
  constructor
  · intro failed
    unfold readCode at failed
    split at failed
    · rename_i text found
      simp only [bind_eq_error, checkText_eq_error, pure_ne_error, and_false, exists_false,
        or_false] at failed
      rcases failed with ⟨position, first, rfl⟩
      exact ⟨_, .surrogate (given?_eq_some.mp found).1 first, rfl⟩
    · rename_i value notText found
      cases failed
      exact ⟨_, .notText (given?_eq_some.mp found) (fun text same => notText text same), rfl⟩
    · rename_i noPiece
      rw [given?_eq_none] at noPiece
      split at failed
      · cases failed
      · rename_i value found
        have holds := given?_eq_some.mp found
        rcases readLines_eq_error.mp failed with ⟨fault, rfl, ⟨notLines, rfl⟩ | lined⟩
        · exact ⟨_, .notLines noPiece holds notLines, rfl⟩
        · rcases lined with ⟨lines, position, rfl, first, rfl⟩
          exact ⟨_, .surrogateInLines noPiece holds.1 first, rfl⟩
  · rintro ⟨fault, wrong, rfl⟩
    cases wrong with
    | notText holds notText =>
      have found := given?_eq_some.mpr holds
      unfold readCode
      split
      · rename_i text found'
        rw [found] at found'
        cases found'
        exact absurd rfl (notText text)
      · rfl
      · rename_i absent
        rw [found] at absent
        cases absent
    | surrogate given first =>
      have found := given?_eq_some.mpr (holds_of_given given (by simp))
      simp only [readCode, found]
      simpa [checkText_eq_error] using first
    | notLines noPiece holds notLines =>
      simp only [readCode, given?_eq_none.mpr noPiece, given?_eq_some.mpr holds]
      exact readLines_eq_error.mpr ⟨_, rfl, Or.inl ⟨notLines, rfl⟩⟩
    | surrogateInLines noPiece given first =>
      have found := given?_eq_some.mpr (holds_of_given given (by simp))
      simp only [readCode, given?_eq_none.mpr noPiece, found]
      exact readLines_eq_error.mpr ⟨_, rfl, Or.inr ⟨_, _, rfl, first, rfl⟩⟩

/-! ### The texts of all codes -/

section Codes

variable {keyPath joiner : Text} {object : Fields} {codes : List Text}

/-- The entries that some codes have for the texts given for them. -/
def entriesOf (codes : List Text) (given : Text → Option Text) : List (Text × Text) :=
  codes.filterMap fun code => (given code).map (code, ·)

theorem entriesOf_cons {code : Text} {given : Text → Option Text} :
    entriesOf (code :: codes) given =
      ((given code).map (code, ·)).toList ++ entriesOf codes given := by
  cases found : given code <;> simp [entriesOf, found]

theorem entriesOf_congr {given other : Text → Option Text}
    (same : ∀ code ∈ codes, given code = other code) :
    entriesOf codes given = entriesOf codes other := by
  apply List.filterMap_congr
  intro code member
  rw [same code member]

theorem codes_entriesOf {given : Text → Option Text} :
    (entriesOf codes given).map Prod.fst = codes.filter fun code => (given code).isSome := by
  induction codes with
  | nil => rfl
  | cons code rest ih =>
    rw [entriesOf_cons, List.map_append, ih]
    cases found : given code <;> simp [found]

/-- Reads the texts for some codes after those already read. -/
def readMore (keyPath joiner : Text) (object : Fields) (stored : LocalTexts) (codes : List Text) :
    Except Problem LocalTexts :=
  codes.foldlM (fun texts code => do
    match ← readCode keyPath joiner object code with
    | none => return texts
    | some text => return texts.put code text) stored

/-- Texts with one more that may be given. -/
def withText (stored : LocalTexts) (code : Text) : Option Text → LocalTexts
  | none => stored
  | some text => stored.put code text

theorem readMore_cons {stored : LocalTexts} {code : Text} {rest : List Text} :
    readMore keyPath joiner object stored (code :: rest) =
      (readCode keyPath joiner object code >>= fun given =>
        readMore keyPath joiner object (withText stored code given) rest) := by
  simp only [readMore, List.foldlM_cons]
  cases readCode keyPath joiner object code with
  | error problem => rfl
  | ok given => cases given <;> rfl

theorem entries_withText {stored : LocalTexts} {code : Text} {given : Option Text}
    (fresh : code ∉ stored.codes) :
    (withText stored code given).entries = stored.entries ++ (given.map (code, ·)).toList := by
  cases given with
  | none => simp [withText]
  | some text => simp [withText, LocalTexts.entries_put_of_fresh fresh]

theorem not_mem_codes_withText {stored : LocalTexts} {code other : Text} {given : Option Text}
    (fresh : code ∉ stored.codes) (otherFresh : other ∉ stored.codes) (apart : other ≠ code) :
    other ∉ (withText stored code given).codes := by
  simp only [LocalTexts.codes, entries_withText fresh, List.map_append, List.mem_append, not_or]
  refine ⟨otherFresh, ?_⟩
  cases given <;> simp [apart]

theorem readMore_eq_ok {stored texts : LocalTexts} (distinct : codes.Nodup)
    (fresh : ∀ code ∈ codes, code ∉ stored.codes) :
    readMore keyPath joiner object stored codes = .ok texts ↔
      ∃ given : Text → Option Text,
        (∀ code ∈ codes, readCode keyPath joiner object code = .ok (given code)) ∧
          texts.entries = stored.entries ++ entriesOf codes given := by
  induction codes generalizing stored with
  | nil =>
    simp only [readMore, List.foldlM_nil, pure_eq_ok]
    constructor
    · rintro rfl
      exact ⟨fun _ => none, by simp, by simp [entriesOf]⟩
    · rintro ⟨_, _, same⟩
      exact LocalTexts.eq_of_entries (by simpa [entriesOf] using same.symm)
  | cons code rest ih =>
    rw [List.nodup_cons] at distinct
    have codeFresh : code ∉ stored.codes := fresh code (by simp)
    have apart : ∀ other ∈ rest, other ≠ code := by
      rintro other member rfl
      exact distinct.1 member
    have restFresh : ∀ given, ∀ other ∈ rest, other ∉ (withText stored code given).codes := by
      intro given other member
      apply not_mem_codes_withText codeFresh
      · exact fresh other (List.mem_cons_of_mem _ member)
      · exact apart other member
    rw [readMore_cons, bind_eq_ok]
    constructor
    · rintro ⟨first, read, readRest⟩
      rcases (ih distinct.2 (restFresh first)).mp readRest with ⟨given, readAll, entries⟩
      -- The text of the first code joins those of the rest, none of which has that code.
      refine ⟨fun other => if other = code then first else given other, ?_, ?_⟩
      · intro other member
        by_cases same : other = code
        · simpa [same] using read
        · simpa [same] using readAll other ((List.mem_cons.mp member).resolve_left same)
      · have agree : ∀ other ∈ rest, (if other = code then first else given other) = given other := by
          intro other member
          rw [if_neg (apart other member)]
        rw [entries, entries_withText codeFresh, entriesOf_cons, entriesOf_congr agree]
        simp
    · rintro ⟨given, readAll, entries⟩
      refine ⟨given code, readAll code (by simp), ?_⟩
      refine (ih distinct.2 (restFresh (given code))).mpr ⟨given, ?_, ?_⟩
      · intro other member
        exact readAll other (by simp [member])
      · rw [entries, entries_withText codeFresh, entriesOf_cons, List.append_assoc]

theorem readMore_eq_error {stored : LocalTexts} {problem : Problem} :
    readMore keyPath joiner object stored codes = .error problem ↔
      ∃ before code after, codes = before ++ code :: after ∧
        (∀ earlier ∈ before, ∃ given, readCode keyPath joiner object earlier = .ok given) ∧
          readCode keyPath joiner object code = .error problem := by
  induction codes generalizing stored with
  | nil => simp [readMore]
  | cons code rest ih =>
    rw [readMore_cons, bind_eq_error]
    constructor
    · rintro (failed | ⟨given, read, failed⟩)
      · exact ⟨[], code, rest, rfl, by simp, failed⟩
      · rcases ih.mp failed with ⟨before, other, after, rfl, sound, failed⟩
        refine ⟨code :: before, other, after, rfl, ?_, failed⟩
        simpa [read] using sound
    · rintro ⟨before, other, after, split, sound, failed⟩
      cases before with
      | nil =>
        cases split
        exact Or.inl failed
      | cons first before =>
        cases split
        rcases sound code (by simp) with ⟨given, read⟩
        refine Or.inr ⟨given, read, ih.mpr ⟨before, other, after, rfl, ?_, failed⟩⟩
        intro earlier member
        exact sound earlier (by simp [member])

theorem readTexts_eq_readMore :
    readTexts keyPath joiner object codes = readMore keyPath joiner object .empty codes := rfl

theorem readTexts_eq_ok {texts : LocalTexts} (distinct : codes.Nodup) :
    readTexts keyPath joiner object codes = .ok texts ↔
      ∃ given : Text → Option Text,
        (∀ code ∈ codes, TextOf joiner object code (given code)) ∧
          texts.entries = entriesOf codes given := by
  rw [readTexts_eq_readMore, readMore_eq_ok distinct (by simp [LocalTexts.codes, LocalTexts.empty])]
  simp only [readCode_eq_ok, LocalTexts.empty, List.nil_append]

theorem readTexts_eq_error {problem : Problem} :
    readTexts keyPath joiner object codes = .error problem ↔
      ∃ before code after fault, codes = before ++ code :: after ∧
        (∀ earlier ∈ before, ∃ given, TextOf joiner object earlier given) ∧
          TextFault joiner object code fault ∧
            problem = .malformedSource fault (some keyPath) := by
  simp only [readTexts_eq_readMore, readMore_eq_error, readCode_eq_ok, readCode_eq_error]
  constructor
  · rintro ⟨before, code, after, split, sound, fault, wrong, rfl⟩
    exact ⟨before, code, after, fault, split, sound, wrong, rfl⟩
  · rintro ⟨before, code, after, fault, split, sound, wrong, rfl⟩
    exact ⟨before, code, after, split, sound, fault, wrong, rfl⟩

/-! ### All or none -/

variable {texts : LocalTexts} {given : Text → Option Text}

theorem isEmpty_iff_none (entries : texts.entries = entriesOf codes given) :
    texts.isEmpty ↔ ∀ code ∈ codes, given code = none := by
  rw [LocalTexts.isEmpty, entries, List.isEmpty_iff]
  simp [entriesOf, List.filterMap_eq_nil_iff]

theorem length_codes_iff_all (entries : texts.entries = entriesOf codes given) :
    texts.codes.length = codes.length ↔ ∀ code ∈ codes, given code ≠ none := by
  rw [LocalTexts.codes, entries, codes_entriesOf, List.length_filter_eq_length_iff]
  simp [Option.isSome_iff_ne_none]

theorem missing_eq_filter (entries : texts.entries = entriesOf codes given) :
    (codes.filter fun code => !texts.codes.contains code) =
      codes.filter fun code => (given code).isNone := by
  apply List.filter_congr
  intro code member
  rw [LocalTexts.codes, entries, codes_entriesOf]
  cases found : given code <;> simp [member, found]

theorem exists_texts (distinct : codes.Nodup) (given : Text → Option Text) :
    ∃ texts : LocalTexts, texts.entries = entriesOf codes given := by
  refine ⟨⟨entriesOf codes given, ?_⟩, rfl⟩
  rw [codes_entriesOf]
  exact distinct.filter _

/-- Texts are complete if all codes have one or none has. -/
theorem complete_iff (entries : texts.entries = entriesOf codes given) :
    (texts.isEmpty ∨ texts.codes.length = codes.length) ↔
      (∀ code ∈ codes, given code ≠ none) ∨ ∀ code ∈ codes, given code = none := by
  rw [isEmpty_iff_none entries, length_codes_iff_all entries, Or.comm]

theorem checkComplete_eq_ok (entries : texts.entries = entriesOf codes given) :
    checkComplete keyPath codes texts = .ok () ↔
      (∀ code ∈ codes, given code ≠ none) ∨ ∀ code ∈ codes, given code = none := by
  rw [← complete_iff entries]
  unfold checkComplete
  split <;> simp_all

theorem checkComplete_eq_error {problem : Problem}
    (entries : texts.entries = entriesOf codes given) :
    checkComplete keyPath codes texts = .error problem ↔
      (∃ code ∈ codes, given code ≠ none) ∧ (∃ code ∈ codes, given code = none) ∧
        problem = .incompleteTexts keyPath (codes.filter fun code => (given code).isNone)
          (codes.filter fun code => (given code).isSome) := by
  have present : texts.codes = codes.filter fun code => (given code).isSome := by
    rw [LocalTexts.codes, entries, codes_entriesOf]
  unfold checkComplete
  split
  · rename_i complete
    simp only [reduceCtorEq, false_iff, not_and]
    rintro ⟨some, someMember, isSome⟩ ⟨none, noneMember, isNone⟩
    rcases (complete_iff entries).mp complete with allSome | allNone
    · exact absurd isNone (allSome none noneMember)
    · exact absurd (allNone some someMember) isSome
  · rename_i incomplete
    rw [complete_iff entries] at incomplete
    rw [missing_eq_filter entries, present]
    simp only [not_or, not_forall, exists_prop, Except.error.injEq, not_not] at incomplete ⊢
    constructor
    · rintro rfl
      exact ⟨incomplete.2, incomplete.1, rfl⟩
    · rintro ⟨_, _, rfl⟩
      rfl

end Codes

/-! ### Objects -/

section Objects

variable {codes : List Text} {parent : Option Text} {index : Nat} {object : Fields} {key : Text}

/-- What is read of an object apart from its key is what the format says. -/
theorem readEntry_eq_ok {keyPath : Text} {entry : Entry} (distinct : codes.Nodup)
    (hasKey : HasKey object key) :
    readEntry codes key keyPath object = .ok entry ↔
      ∃ texts, Head codes object key texts ∧
        entry = ⟨key, keyPath, texts, given? object childrenField⟩ := by
  constructor
  · intro read
    simp only [readEntry, bind_eq_ok] at read
    rcases read with ⟨flag, flagged, texts, textsRead, _, complete, rest⟩
    rcases (readTexts_eq_ok distinct).mp textsRead with ⟨given, readAll, entries⟩
    split at rest
    · simp at rest
    · rename_i content
      refine ⟨texts, ⟨hasKey, ?_, ?_⟩, (pure_eq_ok.mp rest).symm⟩
      · exact .intro given (joiner_of_readFlag flagged) readAll
          ((checkComplete_eq_ok entries).mp complete) entries
      · simpa [LocalTexts.isEmpty, given?_eq_none, imp_iff_not_or] using content
  · rintro ⟨texts, ⟨_, read, content⟩, rfl⟩
    rcases read with ⟨given, joined, readAll, complete, entries⟩
    rcases readFlag_of_joiner keyPath joined with ⟨flag, flagged, rfl⟩
    have textsRead : readTexts keyPath (joinerFor flag) object codes = .ok texts :=
      (readTexts_eq_ok distinct).mpr ⟨given, readAll, entries⟩
    have checked : checkComplete keyPath codes texts = .ok () :=
      (checkComplete_eq_ok entries).mpr complete
    simp only [readEntry, bind_eq_ok]
    refine ⟨flag, flagged, texts, textsRead, (), checked, ?_⟩
    rw [if_neg]
    · rfl
    · simpa [LocalTexts.isEmpty, given?_eq_none, imp_iff_not_or] using content

theorem head_of_readEntry {keyPath : Text} {entry : Entry} (distinct : codes.Nodup)
    (hasKey : HasKey object key) (read : readEntry codes key keyPath object = .ok entry) :
    Head codes object key entry.texts := by
  rcases (readEntry_eq_ok distinct hasKey).mp read with ⟨texts, head, rfl⟩
  exact head

theorem headFault_of_readEntry {problem : Problem} (distinct : codes.Nodup)
    (hasKey : HasKey object key)
    (failed : readEntry codes key (KeyPath.join parent key) object = .error problem) :
    HeadFault codes parent index object (.problem problem) := by
  simp only [readEntry, bind_eq_error] at failed
  rcases failed with notFlag | ⟨flag, flagged, failed⟩
  · rcases readFlag_eq_error.mp notFlag with ⟨value, given, notBool, rfl⟩
    exact .flag hasKey given notBool
  have joined := joiner_of_readFlag flagged
  rcases failed with badText | ⟨texts, textsRead, failed⟩
  · rcases readTexts_eq_error.mp badText with ⟨before, code, after, fault, split, sound, wrong, rfl⟩
    exact .text hasKey joined split sound wrong
  rcases (readTexts_eq_ok distinct).mp textsRead with ⟨given, readAll, entries⟩
  rcases failed with partly | ⟨_, _, failed⟩
  · rcases (checkComplete_eq_error entries).mp partly with ⟨some, notAll, rfl⟩
    exact .incomplete given hasKey joined readAll some notAll
  split at failed
  · rename_i empty
    simp only [Bool.and_eq_true, isEmpty_iff_none entries, Option.isNone_iff_eq_none,
      given?_eq_none] at empty
    have isEmpty : problem = .emptyNode (KeyPath.join parent key) codes := by
      simp only [bind_eq_error, throw_eq_error, throw_ne_ok, false_and, exists_false,
        or_false] at failed
      exact failed.symm
    subst isEmpty
    refine .empty hasKey joined ?_ empty.2
    intro code member
    rw [← empty.1 code member]
    exact readAll code member
  · simp at failed

theorem readEntry_of_headFault {problem : Problem} (distinct : codes.Nodup)
    (hasKey : HasKey object key) (fault : HeadFault codes parent index object (.problem problem)) :
    readEntry codes key (KeyPath.join parent key) object = .error problem := by
  have same : ∀ {other : Text}, HasKey object other → other = key := by
    intro other otherKey
    simpa using otherKey.given.symm.trans hasKey.given
  simp only [readEntry, bind_eq_error]
  cases fault with
  | noKey unset =>
    exact absurd unset (not_unset_of_holds ⟨hasKey.given, by simp⟩)
  | flag other given notBool =>
    cases same other
    exact Or.inl (readFlag_eq_error.mpr ⟨_, given, notBool, rfl⟩)
  | text other joined split sound wrong =>
    cases same other
    rcases readFlag_of_joiner (KeyPath.join parent key) joined with ⟨flag, flagged, rfl⟩
    refine Or.inr ⟨flag, flagged, Or.inl ?_⟩
    exact readTexts_eq_error.mpr ⟨_, _, _, _, split, sound, wrong, rfl⟩
  | incomplete given other joined readAll some notAll =>
    cases same other
    rcases readFlag_of_joiner (KeyPath.join parent key) joined with ⟨flag, flagged, rfl⟩
    rcases exists_texts distinct given with ⟨texts, entries⟩
    refine Or.inr ⟨flag, flagged, Or.inr ⟨texts, ?_, Or.inl ?_⟩⟩
    · exact (readTexts_eq_ok distinct).mpr ⟨given, readAll, entries⟩
    · exact (checkComplete_eq_error entries).mpr ⟨some, notAll, rfl⟩
  | empty other joined readAll unset =>
    cases same other
    rcases readFlag_of_joiner (KeyPath.join parent key) joined with ⟨flag, flagged, rfl⟩
    rcases exists_texts distinct (fun _ => none) with ⟨texts, entries⟩
    refine Or.inr ⟨flag, flagged, Or.inr ⟨texts, ?_, Or.inr ⟨(), ?_, ?_⟩⟩⟩
    · exact (readTexts_eq_ok distinct).mpr ⟨_, readAll, entries⟩
    · exact (checkComplete_eq_ok entries).mpr (Or.inr fun _ _ => rfl)
    · have isEmpty : texts.isEmpty := (isEmpty_iff_none entries).mpr fun _ _ => rfl
      rw [if_pos]
      · simp
      · simp [isEmpty, given?_eq_none.mpr unset]

/-- The fault met in an object apart from its key is the one that the format puts first. -/
theorem readEntry_eq_error {problem : Problem} (distinct : codes.Nodup)
    (hasKey : HasKey object key) :
    readEntry codes key (KeyPath.join parent key) object = .error problem ↔
      HeadFault codes parent index object (.problem problem) := by
  constructor
  · intro failed
    exact headFault_of_readEntry distinct hasKey failed
  · intro fault
    exact readEntry_of_headFault distinct hasKey fault

end Objects

end Phrasebook.Document
