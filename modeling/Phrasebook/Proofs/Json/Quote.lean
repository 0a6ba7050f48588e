import Phrasebook.Json.Reader
import Phrasebook.Json.Writer
import Phrasebook.Proofs.Text.Utf8

/-!
# Quoted texts

A text that is written between quotes is read back as it was, whatever follows the closing quote: each
code point is read from what is written for it. So a quoted text ends where its closing quote stands,
and no two texts are written alike.
-/

namespace Phrasebook.Json

variable {start read rest : Text} {style : Style}

/-! ### Code points -/

theorem stringBody_closed : stringBody start read (.scalar '"' :: rest) = .ok (read.reverse, rest) := by
  rw [stringBody]

theorem stringBody_plain {point : CodePoint} (noQuote : point ≠ '"') (noEscape : point ≠ '\\')
    (printed : ¬point.value < 0x20) :
    stringBody start read (point :: rest) = stringBody start (point :: read) rest := by
  rw [stringBody]
  · rw [if_neg printed]
  all_goals simp_all

theorem stringBody_letter {letter point : CodePoint} (meant : letterEscape? letter = some point) :
    stringBody start read (.scalar '\\' :: letter :: rest) = stringBody start (point :: read) rest := by
  have notNumber : letter ≠ 'u' := by
    rintro rfl
    have : letterEscape? 'u' = none := by decide
    simp [this] at meant
  rw [stringBody]
  · rw [meant]
  all_goals simp_all

/-- The digits of an escape for a control character. -/
theorem padded_control {value : Nat} (small : value < 0x20) :
    ∃ third fourth, Numeral.padded 16 4 value = [.scalar '0', .scalar '0', third, fourth] ∧
      fourDigits? '0' '0' third fourth = some value := by
  have all : ∀ value : Fin 0x20,
      Numeral.padded 16 4 value =
          [.scalar '0', .scalar '0', Numeral.digit (value / 16), Numeral.digit (value % 16)] ∧
        fourDigits? '0' '0' (Numeral.digit (value / 16)) (Numeral.digit (value % 16)) =
          some value.val := by
    decide +kernel
  exact ⟨_, _, all ⟨value, small⟩⟩

theorem stringBody_number {point next : CodePoint} (control : point.value < 0x20) :
    stringBody start read (escapeByNumber point ++ next :: rest) =
      stringBody start (point :: read) (next :: rest) := by
  rcases padded_control control with ⟨third, fourth, digits, number⟩
  have written : escapeByNumber point ++ next :: rest =
      .scalar '\\' :: .scalar 'u' :: .scalar '0' :: .scalar '0' :: third :: fourth :: next :: rest := by
    simp only [escapeByNumber, if_pos (show point.value < 0x10000 by omega), digits]
    rfl
  have notHigh : isHigh point.value = false := by
    simp only [isHigh, Bool.and_eq_false_iff, decide_eq_false_iff_not]
    omega
  have found : numberEscape (.scalar '0' :: .scalar '0' :: third :: fourth :: next :: rest) =
      .ok ([point], next :: rest) := by
    simp [numberEscape, number, notHigh, CodePoint.ofNat?_value]
  rw [written, stringBody]
  split
  · rename_i stopped
    simp [found] at stopped
  · rename_i other
    rw [found] at other
    cases other
    rfl

/-- What is written for a code point is read as the code point. -/
theorem stringBody_escape (unescaped : style.asciiOnly = false) (point : CodePoint) {next : CodePoint} :
    stringBody start read (escape style point ++ next :: rest) =
      stringBody start (point :: read) (next :: rest) := by
  unfold escape
  split_ifs with own backspace feed line return_ tab number
  · exact stringBody_letter (by rcases own with rfl | rfl <;> decide)
  · rw [backspace]
    exact stringBody_letter (by decide)
  · rw [feed]
    exact stringBody_letter (by decide)
  · rw [line]
    exact stringBody_letter (by decide)
  · rw [return_]
    exact stringBody_letter (by decide)
  · rw [tab]
    exact stringBody_letter (by decide)
  · exact stringBody_number (by simpa [unescaped] using number)
  · rw [not_or] at own number
    exact stringBody_plain own.1 own.2 number.1

/-! ### Texts -/

theorem stringBody_flatMap (unescaped : style.asciiOnly = false) (read text rest : Text) :
    stringBody start read (text.flatMap (escape style) ++ .scalar '"' :: rest) =
      .ok (read.reverse ++ text, rest) := by
  induction text generalizing read with
  | nil => simpa using stringBody_closed
  | cons point later ih =>
    -- The escape by number is read only before another code point, which the closing quote provides.
    have followed : ∃ next others,
        later.flatMap (escape style) ++ .scalar '"' :: rest = next :: others := by
      cases later.flatMap (escape style) with
      | nil => exact ⟨_, _, rfl⟩
      | cons next others => exact ⟨_, _, rfl⟩
    rcases followed with ⟨next, others, split⟩
    rw [List.flatMap_cons, List.append_assoc, split, stringBody_escape unescaped, ← split, ih]
    simp

/-- A quoted text tells the text and what follows the quotes. -/
theorem quote_append_inj (unescaped : style.asciiOnly = false) {first second after others : Text} :
    quote style first ++ after = quote style second ++ others ↔ first = second ∧ after = others := by
  constructor
  · intro same
    have inner : first.flatMap (escape style) ++ .scalar '"' :: after =
        second.flatMap (escape style) ++ .scalar '"' :: others := by
      simpa [quote] using same
    have reads : stringBody [] [] (first.flatMap (escape style) ++ .scalar '"' :: after) = _ :=
      stringBody_flatMap unescaped [] first after
    rw [inner, stringBody_flatMap unescaped] at reads
    simpa [eq_comm] using reads
  · rintro ⟨rfl, rfl⟩
    rfl

/-! ### Encoding -/

theorem isEncodable_inBase (base number : Nat) : (Numeral.inBase base number).isEncodable := by
  simp [Numeral.inBase, Text.isEncodable, Numeral.digit, CodePoint.isSurrogate]

theorem isEncodable_escapeByNumber (point : CodePoint) : (escapeByNumber point).isEncodable := by
  have padded (number : Nat) : (Numeral.padded 16 4 number).isEncodable := by
    rw [Numeral.padded, Text.isEncodable_append]
    exact ⟨by simp [Text.isEncodable, CodePoint.isSurrogate], isEncodable_inBase 16 number⟩
  have unit (number : Nat) : (("\\u" : Text) ++ Numeral.padded 16 4 number).isEncodable := by
    rw [Text.isEncodable_append]
    exact ⟨by decide, padded number⟩
  unfold escapeByNumber
  extract_lets write offset
  split
  · exact unit _
  · rw [Text.isEncodable_append]
    exact ⟨unit _, unit _⟩

/-- What is quoted can be encoded if the text can. -/
theorem isEncodable_quote {text : Text} (encodable : text.isEncodable) :
    (quote style text).isEncodable := by
  have each : ∀ point ∈ text, (escape style point).isEncodable := by
    intro point member
    have scalar : point.isSurrogate = false := by
      simpa using List.all_eq_true.mp encodable point member
    unfold escape
    split_ifs
    · simpa [Text.isEncodable, CodePoint.isSurrogate] using scalar
    · decide
    · decide
    · decide
    · decide
    · decide
    · exact isEncodable_escapeByNumber point
    · simpa [Text.isEncodable] using scalar
  rw [quote, Text.isEncodable_append, Text.isEncodable_append]
  exact ⟨⟨by decide, Text.isEncodable_flatMap each⟩, by decide⟩

end Phrasebook.Json
