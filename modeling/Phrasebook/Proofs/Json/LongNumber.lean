import Mathlib.Data.List.TakeWhile
import Phrasebook.Json.Reader
import Phrasebook.Proofs.Outcome

/-!
# Numbers that are too long

A reader stops at a whole number with more digits than can be converted. These digits stand in the text
one after the other: what a reader leaves is the end of its text, so that wherever it stops, it stops
within the text.
-/

namespace Phrasebook

/-- A text has digits one after the other, as many as a number says. -/
def Text.HasDigits (text : Text) (count : Nat) : Prop :=
  ∃ digits, digits <:+: text ∧ digits.length = count ∧ ∀ digit ∈ digits, digit.isAsciiDigit

theorem Text.HasDigits.of_suffix {rest text : Text} {count : Nat} (within : rest <:+ text)
    (has : rest.HasDigits count) : text.HasDigits count := by
  rcases has with ⟨digits, inside, counted⟩
  exact ⟨digits, inside.trans within.isInfix, counted⟩

namespace Json

/-- A stop for a long number names the count of digits of a number in the text. -/
def Stop.IsWithin (text : Text) : Stop → Prop
  | .numberTooLong digits => digitLimit < digits ∧ text.HasDigits digits
  | .malformed _ _ | .tooDeep => True

/-- A reader leaves the end of its text, or stops within the text. -/
def StaysWithin {α : Type} (text : Text) : Except Stop (Taken α text) → Prop
  | .ok taken => taken.rest <:+ text
  | .error stop => stop.IsWithin text

theorem Stop.IsWithin.of_suffix {rest text : Text} {stop : Stop} (within : rest <:+ text)
    (stopped : stop.IsWithin rest) : stop.IsWithin text := by
  cases stop with
  | numberTooLong digits => exact ⟨stopped.1, stopped.2.of_suffix within⟩
  | malformed | tooDeep => trivial

theorem StaysWithin.suffix {α : Type} {text : Text} {read : Except Stop (Taken α text)}
    {taken : Taken α text} (stays : StaysWithin text read) (found : read = .ok taken) :
    taken.rest <:+ text := by
  subst found
  exact stays

theorem StaysWithin.isWithin {α : Type} {text : Text} {read : Except Stop (Taken α text)}
    {stop : Stop} (stays : StaysWithin text read) (stopped : read = .error stop) :
    stop.IsWithin text := by
  subst stopped
  exact stays

/-! ### White space and strings -/

theorem skipSpace_suffix (text : Text) : skipSpace text <:+ text := List.dropWhile_suffix _

theorem tail_suffix {first : CodePoint} {rest text : Text} (within : first :: rest <:+ text) :
    rest <:+ text := (List.suffix_cons first rest).trans within

theorem spaced_suffix {first : CodePoint} {rest text : Text} (within : first :: rest <:+ text) :
    skipSpace rest <:+ text := (skipSpace_suffix rest).trans (tail_suffix within)

theorem secondHalf_suffix {high : Nat} {text : Text} {point : CodePoint} {rest : Text}
    (found : secondHalf high text = .ok (some (point, rest))) : rest <:+ text := by
  unfold secondHalf at found
  split at found
  · split at found
    · cases found
    · rename_i first second third fourth _ _ _ _ _
      simp only [Except.ok.injEq, Option.map_eq_some_iff, Prod.mk.injEq] at found
      rcases found with ⟨_, _, _, rfl⟩
      exact ⟨[.scalar '\\', .scalar 'u', first, second, third, fourth], rfl⟩
  · cases found

theorem secondHalf_isWithin {high : Nat} {text : Text} {stop : Stop} (within : Text)
    (stopped : secondHalf high text = .error stop) : stop.IsWithin within := by
  unfold secondHalf at stopped
  split at stopped
  · split at stopped
    · cases stopped
      trivial
    · cases stopped
  · cases stopped

theorem numberEscape_suffix {text points rest : Text}
    (found : numberEscape text = .ok (points, rest)) : rest <:+ text := by
  unfold numberEscape at found
  split at found
  · rename_i first second third fourth next after
    have digits : next :: after <:+ first :: second :: third :: fourth :: next :: after :=
      ⟨[first, second, third, fourth], rfl⟩
    split at found
    · cases found
    · split at found
      · split at found
        · cases found
        · rename_i pair
          cases found
          exact (secondHalf_suffix pair).trans digits
        · cases found
          exact digits
      · cases found
        exact digits
  · cases found

theorem numberEscape_isWithin {text : Text} {stop : Stop} (within : Text)
    (stopped : numberEscape text = .error stop) : stop.IsWithin within := by
  unfold numberEscape at stopped
  split at stopped
  · split at stopped
    · cases stopped
      trivial
    · split at stopped
      · split at stopped
        · rename_i half
          cases stopped
          exact secondHalf_isWithin within half
        · cases stopped
        · cases stopped
      · cases stopped
  · cases stopped
    trivial

theorem stringBody_suffix {start read text value rest : Text}
    (found : stringBody start read text = .ok (value, rest)) : rest <:+ text := by
  fun_induction stringBody start read text with
  | case1 | case3 | case4 | case6 | case8 => cases found
  | case2 read after =>
    cases found
    exact List.suffix_cons _ _
  | case5 read next points after escape _ ih =>
    have inside : after <:+ .scalar '\\' :: .scalar 'u' :: next :=
      (numberEscape_suffix escape).trans ⟨[.scalar '\\', .scalar 'u'], rfl⟩
    exact (ih found).trans inside
  | case7 read letter next _ _ _ ih => exact (ih found).trans ⟨[.scalar '\\', letter], rfl⟩
  | case9 read point next _ _ _ _ _ ih => exact (ih found).trans (List.suffix_cons point next)

theorem stringBody_isWithin {start read text : Text} {stop : Stop} (within : Text)
    (stopped : stringBody start read text = .error stop) : stop.IsWithin within := by
  fun_induction stringBody start read text with
  | case1 | case3 | case6 | case8 =>
    cases stopped
    trivial
  | case2 => cases stopped
  | case4 read next first escape =>
    cases stopped
    exact numberEscape_isWithin within escape
  | case5 read next points after _ _ ih => exact ih stopped
  | case7 read letter next _ _ _ ih => exact ih stopped
  | case9 read point next _ _ _ _ _ ih => exact ih stopped

/-! ### Numbers and words -/

theorem digitRun_suffix (text : Text) : (digitRun text).2 <:+ text := List.dropWhile_suffix _

theorem isAsciiDigit_of_mem_digitRun {text : Text} {digit : CodePoint}
    (member : digit ∈ (digitRun text).1) : digit.isAsciiDigit :=
  List.mem_takeWhile_imp member

theorem digitRun_append (text : Text) : (digitRun text).1 ++ (digitRun text).2 = text :=
  List.takeWhile_append_dropWhile

theorem fraction_suffix (text : Text) : (fraction text).2 <:+ text := by
  unfold fraction
  split
  · rename_i digit rest
    split
    · exact (digitRun_suffix rest).trans ⟨[.scalar '.', digit], rfl⟩
    · exact List.suffix_rfl
  · exact List.suffix_rfl

theorem exponentSign_suffix (text : Text) : (exponentSign text).2 <:+ text := by
  unfold exponentSign
  split
  · exact List.suffix_cons _ _
  · exact List.suffix_cons _ _
  · exact List.suffix_rfl

theorem exponent_suffix (text : Text) : (exponent text).2 <:+ text := by
  unfold exponent
  split
  · rename_i mark rest
    split
    · simp only
      split
      · exact List.suffix_rfl
      · have sign := exponentSign_suffix rest
        exact ((digitRun_suffix _).trans sign).trans (List.suffix_cons mark rest)
    · exact List.suffix_rfl
  · exact List.suffix_rfl

/-- The whole part of a number is at its front, and of digits. -/
theorem wholePart_digits {text : Text} {whole : Taken Text text} (found : wholePart text = some whole) :
    whole.value ++ whole.rest = text ∧ ∀ digit ∈ whole.value, digit.isAsciiDigit := by
  unfold wholePart at found
  split at found
  · cases found
  · rename_i first rest
    split at found
    · rename_i zero
      cases found
      constructor
      · rfl
      · intro digit member
        cases List.mem_singleton.mp member
        subst zero
        rfl
    · split at found
      · rename_i isDigit
        cases found
        constructor
        · exact congrArg (first :: ·) (digitRun_append rest)
        · intro digit member
          rcases List.mem_cons.mp member with rfl | later
          · exact isDigit
          · exact isAsciiDigit_of_mem_digitRun later
      · cases found

theorem unsigned_staysWithin {negative : Bool} {text : Text} {read : Except Stop (Taken Datum text)}
    (found : unsigned negative text = some read) : StaysWithin text read := by
  unfold unsigned at found
  rcases Option.map_eq_some_iff.mp found with ⟨whole, front, rfl⟩
  rcases wholePart_digits front with ⟨split, digits⟩
  have after : whole.rest <:+ text := ⟨whole.value, split⟩
  simp only
  split
  · split
    · rename_i long
      exact ⟨long, whole.value, ⟨[], whole.rest, split⟩, rfl, digits⟩
    · exact after
  · exact ((exponent_suffix _).trans (fraction_suffix whole.rest)).trans after

theorem dropStart?_suffix {start text rest : Text} (found : Text.dropStart? start text = some rest) :
    rest <:+ text := by
  fun_induction Text.dropStart? start text with
  | case1 =>
    cases found
    exact List.suffix_rfl
  | case2 | case4 => cases found
  | case3 _ point next ih => exact (ih found).trans (List.suffix_cons point next)

theorem word?_suffix {text : Text} {names : List (Text × Datum)} {taken : Taken Datum text}
    (found : word? text names = some taken) : taken.rest <:+ text := by
  fun_induction word? text names with
  | case1 => cases found
  | case2 name value others rest start =>
    cases found
    exact dropStart?_suffix start
  | case3 name value others rest start short ih => exact ih found
  | case4 name value others _ ih => exact ih found

theorem number_staysWithin (text : Text) : StaysWithin text (number text) := by
  unfold number
  split
  · rename_i rest
    have inside := List.suffix_cons (CodePoint.scalar '-') rest
    split
    · rename_i found
      have here : StaysWithin rest (.ok _) := unsigned_staysWithin found
      exact here.trans inside
    · rename_i found
      have here : StaysWithin rest (.error _) := unsigned_staysWithin found
      exact here.of_suffix inside
    · trivial
  · cases found : unsigned false text with
    | none => trivial
    | some read => exact unsigned_staysWithin found

theorem atom_staysWithin (text : Text) : StaysWithin text (atom text) := by
  unfold atom
  split
  · rename_i found
    exact word?_suffix found
  · exact number_staysWithin text

/-! ### Values -/

/-- All readers of values leave the end of a text, or stop within it. -/
structure ReadWithin (text : Text) : Prop where
  value : ∀ depth, StaysWithin text (value depth text)
  items : ∀ depth, StaysWithin text (items depth text)
  fields : ∀ depth read, StaysWithin text (fields depth read text)

section Steps

variable {text : Text} (below : ∀ rest, rest.length < text.length → ReadWithin rest)
include below

/-- What follows a code point of a text, without the white space before it. -/
theorem readWithin_of_cons {first : CodePoint} {rest : Text} (within : first :: rest <:+ text) :
    ReadWithin (skipSpace rest) := by
  apply below
  have shorter : rest.length < text.length := within.length_le
  exact (skipSpace_length_le rest).trans_lt shorter

theorem value_staysWithin (depth : Nat) : StaysWithin text (value depth text) := by
  unfold value
  split
  · rename_i rest
    split
    · rename_i stopped
      exact stringBody_isWithin _ stopped
    · rename_i found
      exact (stringBody_suffix found).trans (List.suffix_cons _ rest)
  · rename_i rest
    have inside : skipSpace rest <:+ .scalar '[' :: rest := spaced_suffix List.suffix_rfl
    have inner := (readWithin_of_cons below List.suffix_rfl).items (depth - 1)
    split
    · trivial
    · split
      · rename_i opened
        exact tail_suffix (opened ▸ inside)
      · simp only
        split
        · rename_i stopped
          exact (inner.isWithin stopped).of_suffix inside
        · rename_i found
          exact (inner.suffix found).trans inside
  · rename_i rest
    have inside : skipSpace rest <:+ .scalar '\x7b' :: rest := spaced_suffix List.suffix_rfl
    have inner := (readWithin_of_cons below List.suffix_rfl).fields (depth - 1) []
    split
    · trivial
    · split
      · rename_i opened
        exact tail_suffix (opened ▸ inside)
      · simp only
        split
        · rename_i stopped
          exact (inner.isWithin stopped).of_suffix inside
        · rename_i found
          exact (inner.suffix found).trans inside
  · exact atom_staysWithin text

theorem items_staysWithin (first : ∀ depth, StaysWithin text (value depth text)) (depth : Nat) :
    StaysWithin text (items depth text) := by
  unfold items
  split
  · rename_i stopped
    exact (first depth).isWithin stopped
  · rename_i item found
    have inside : skipSpace item.rest <:+ text :=
      (skipSpace_suffix item.rest).trans ((first depth).suffix found)
    simp only
    split
    · rename_i ended
      exact tail_suffix (ended ▸ inside)
    · rename_i after ended
      have comma : .scalar ',' :: after <:+ text := ended ▸ inside
      have others := (readWithin_of_cons below comma).items depth
      split
      · rename_i stopped
        exact (others.isWithin stopped).of_suffix (spaced_suffix comma)
      · rename_i found
        exact (others.suffix found).trans (spaced_suffix comma)
    · trivial

theorem fields_staysWithin (depth : Nat) (read : Fields) :
    StaysWithin text (fields depth read text) := by
  unfold fields
  split
  · rename_i rest
    split
    · rename_i stopped
      exact stringBody_isWithin _ stopped
    · rename_i name afterName named
      have inside : skipSpace afterName <:+ .scalar '"' :: rest :=
        (skipSpace_suffix afterName).trans ((stringBody_suffix named).trans (List.suffix_cons _ _))
      simp only
      split
      · rename_i afterColon separated
        have colon : .scalar ':' :: afterColon <:+ .scalar '"' :: rest := separated ▸ inside
        have content := (readWithin_of_cons below colon).value depth
        split
        · rename_i stopped
          exact (content.isWithin stopped).of_suffix (spaced_suffix colon)
        · rename_i taken found
          have inside : skipSpace taken.rest <:+ .scalar '"' :: rest :=
            (skipSpace_suffix taken.rest).trans ((content.suffix found).trans (spaced_suffix colon))
          split
          · rename_i ended
            exact tail_suffix (ended ▸ inside)
          · rename_i after ended
            have comma : .scalar ',' :: after <:+ .scalar '"' :: rest := ended ▸ inside
            have others := (readWithin_of_cons below comma).fields depth
            split
            · rename_i stopped
              exact ((others _).isWithin stopped).of_suffix (spaced_suffix comma)
            · rename_i found
              exact ((others _).suffix found).trans (spaced_suffix comma)
          · trivial
      · trivial
  · trivial

end Steps

theorem readWithin (text : Text) : ReadWithin text := by
  induction size : text.length using Nat.strongRecOn generalizing text with
  | ind size ih =>
    subst size
    have below : ∀ rest, rest.length < text.length → ReadWithin rest :=
      fun rest shorter => ih _ shorter rest rfl
    have first := value_staysWithin below
    exact ⟨first, items_staysWithin below first, fields_staysWithin below⟩

theorem document_isWithin {depth : Nat} {text : Text} {stop : Stop}
    (stopped : document depth text = .error stop) : stop.IsWithin text := by
  unfold document at stopped
  split at stopped
  · cases stopped
    trivial
  · split at stopped
    · rename_i below
      cases stopped
      have here := ((readWithin (skipSpace text)).value depth).isWithin below
      exact here.of_suffix (skipSpace_suffix text)
    · split at stopped
      · cases stopped
      · cases stopped
        trivial

/-- A number is found too long only where the text has its digits, and has them in excess. -/
theorem read_eq_numberTooLong [Host] {text : Text} {digits : Nat}
    (failed : read text = .error (.numberTooLong digits)) :
    digitLimit < digits ∧ text.HasDigits digits := by
  rcases Outcome.mapError_eq_error.mp failed with ⟨stop, stopped, same⟩
  have here := document_isWithin stopped
  cases stop with
  | numberTooLong count =>
    cases same
    exact here
  | malformed | tooDeep => cases same

/-! ### Texts of digits -/

theorem digitRun_of_digits {text : Text} (digits : ∀ digit ∈ text, digit.isAsciiDigit) :
    digitRun text = (text, []) := by
  rw [digitRun, List.takeWhile_eq_self_iff.mpr digits, List.dropWhile_eq_nil_iff.mpr digits]

theorem ne_of_isAsciiDigit {digit : CodePoint} (isDigit : digit.isAsciiDigit) (point : CodePoint)
    (other : ¬point.isAsciiDigit) : digit ≠ point := by
  rintro rfl
  exact other isDigit

section Digits

variable {first : CodePoint} {rest : Text}
variable (digits : ∀ digit ∈ first :: rest, digit.isAsciiDigit)
include digits

theorem wholePart_of_digits (nonzero : first ≠ '0') :
    wholePart (first :: rest) = some ⟨first :: rest, [], Nat.succ_pos _⟩ := by
  rw [List.forall_mem_cons] at digits
  simp only [wholePart, nonzero, digits.1, digitRun_of_digits digits.2, if_true, if_false]

theorem unsigned_of_digits (negative : Bool) (nonzero : first ≠ '0')
    (long : digitLimit < (first :: rest).length) :
    unsigned negative (first :: rest) = some (.error (.numberTooLong (first :: rest).length)) := by
  rw [unsigned, wholePart_of_digits digits nonzero]
  simp only [Option.map_some, fraction, exponent, List.isEmpty_nil, Bool.and_self, if_true, long]

omit digits in
theorem word?_eq_none {text : Text} {names : List (Text × Datum)}
    (absent : ∀ named ∈ names, Text.dropStart? named.1 text = none) : word? text names = none := by
  fun_induction word? text names with
  | case1 => rfl
  | case2 name value others rest start | case3 name value others rest start =>
    rw [absent _ List.mem_cons_self] at start
    cases start
  | case4 name value others _ ih => exact ih fun named member => absent named (.tail _ member)

theorem word?_of_digits : word? (first :: rest) words = none := by
  have names : ∀ named ∈ words, ∃ letter ∈ named.1.head?, ¬letter.isAsciiDigit := by decide
  apply word?_eq_none
  intro named member
  rcases names named member with ⟨letter, front, notDigit⟩
  rcases List.head?_eq_some_iff.mp front with ⟨others, spelled⟩
  have differs := ne_of_isAsciiDigit (digits first List.mem_cons_self) letter notDigit
  rw [spelled, Text.dropStart?, if_neg differs.symm]

theorem skipSpace_of_digits : skipSpace (first :: rest) = first :: rest := by
  apply List.dropWhile_cons_of_neg
  have differs := ne_of_isAsciiDigit (digits first List.mem_cons_self)
  simp only [isSpace, Bool.or_eq_true, decide_eq_true_eq, not_or]
  refine ⟨⟨⟨?_, ?_⟩, ?_⟩, ?_⟩ <;> exact differs _ (by decide)

/-- A text of digits is read as a number without a sign. -/
theorem value_of_digits (depth : Nat) :
    value depth (first :: rest) =
      (unsigned false (first :: rest)).getD (.error (.malformed .missingValue (rest.length + 1))) := by
  have differs := ne_of_isAsciiDigit (digits first List.mem_cons_self)
  have notQuote : first ≠ '"' := differs _ (by decide)
  have notBracket : first ≠ '[' := differs _ (by decide)
  have notBrace : first ≠ '\x7b' := differs _ (by decide)
  have notMinus : first ≠ '-' := differs _ (by decide)
  rw [value.eq_4, atom, word?_of_digits digits]
  · simp only
    rw [number.eq_2]
    · rfl
    · simp [notMinus]
  · simp [notQuote]
  · simp [notBracket]
  · simp [notBrace]

theorem read_of_digits [Host] (nonzero : first ≠ '0') (long : digitLimit < (first :: rest).length) :
    read (first :: rest) = .error (.numberTooLong (first :: rest).length) := by
  have notMark : first ≠ '\uFEFF' :=
    ne_of_isAsciiDigit (digits first List.mem_cons_self) _ (by decide)
  have stopped : value Host.jsonDepth (skipSpace (first :: rest)) =
      .error (.numberTooLong (first :: rest).length) := by
    rw [skipSpace_of_digits digits, value_of_digits digits, unsigned_of_digits digits _ nonzero long]
    rfl
  rw [read, document.eq_2]
  · rw [stopped]
    rfl
  · simp [notMark]

end Digits

theorem read_of_repeated_digit [Host] {digit : CodePoint} (isDigit : digit.isAsciiDigit) (nonzero : digit ≠ '0')
    {count : Nat} (long : digitLimit < count) :
    read (List.replicate count digit) = .error (.numberTooLong count) := by
  have digits : ∀ other ∈ List.replicate count digit, other.isAsciiDigit := by
    intro other member
    rwa [List.eq_of_mem_replicate member]
  cases count with
  | zero => exact absurd long (Nat.not_lt_zero _)
  | succ rest =>
    rw [List.replicate_succ] at digits ⊢
    have stopped := read_of_digits digits nonzero (by rwa [List.length_cons, List.length_replicate])
    rwa [List.length_cons, List.length_replicate] at stopped

end Json

end Phrasebook
