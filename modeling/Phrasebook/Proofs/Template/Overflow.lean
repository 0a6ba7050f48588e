import Phrasebook.Proofs.Number.Binary64
import Phrasebook.Proofs.Outcome
import Phrasebook.Proofs.Text.Utf8
import Phrasebook.Template.Substitution

/-!
# Numbers that do not fit

Substitution writes a text or refuses a token, with one exception: a whole number that is to be written
as a code point or as a binary number may not fit. The exception is described exactly here. It is the
first token that fails which has such a number, under a specification that is understood.
-/

namespace Phrasebook

namespace Template

open Outcome

/-- A whole number is not that of a code point. -/
inductive NoCodePoint (number : Int) : Overflow → Prop
  | pastWord (far : number < -2 ^ 63 ∨ 2 ^ 63 ≤ number) : NoCodePoint number .pastWord
  | inWord (near : -2 ^ 63 ≤ number ∧ number < 2 ^ 63) (outside : number < 0 ∨ 0x110000 ≤ number) :
      NoCodePoint number .notACodePoint

/-- A specification asks for the code point of a number, and for nothing that a code point cannot have. -/
structure Spec.IsCharacter (spec : Spec) : Prop where
  code : spec.code = .scalar 'c'
  precision : spec.precision = none
  noNegativeZero : spec.noNegativeZero = false
  sign : spec.sign = .onlyMinus
  alternate : spec.alternate = false

/-- A whole number does not fit what a specification asks for. -/
inductive Unfit (spec : Spec) (number : Int) : Overflow → Prop
  | character {overflow : Overflow} (asked : spec.IsCharacter)
      (misfit : NoCodePoint number overflow) : Unfit spec number overflow
  | real (asked : spec.code ∈ realCodes) (far : Binary64.halfPastGreatest ≤ number.natAbs) :
      Unfit spec number .pastReal

variable {spec : Spec} {number : Int} {overflow : Overflow}

theorem characterParts_of_far (sign : spec.sign = .onlyMinus) (alternate : spec.alternate = false)
    (far : number < -2 ^ 63 ∨ 2 ^ 63 ≤ number) :
    characterParts spec number = .error (.overflow .pastWord) := by
  have bound : (wordBound : Int) = 2 ^ 63 := rfl
  rw [characterParts, if_neg (by simp [sign]), if_neg (by simp [alternate]), bound, if_pos far]

theorem characterParts_of_near (sign : spec.sign = .onlyMinus) (alternate : spec.alternate = false)
    (near : -2 ^ 63 ≤ number ∧ number < 2 ^ 63) :
    characterParts spec number = .error (.overflow overflow) ↔
      overflow = .notACodePoint ∧ (number < 0 ∨ 0x110000 ≤ number) := by
  have bound : (wordBound : Int) = 2 ^ 63 := rfl
  rw [characterParts, if_neg (by simp [sign]), if_neg (by simp [alternate]), bound,
    if_neg (by omega)]
  split
  · rw [Except.error.injEq, PresentationFault.overflow.injEq, eq_comm, and_iff_left (by omega)]
  · split
    · rename_i none
      have := CodePoint.ofNat?_eq_none.mp none
      rw [Except.error.injEq, PresentationFault.overflow.injEq, eq_comm, and_iff_left (by omega)]
    · rename_i point
      have : ¬0x110000 ≤ number.toNat := by
        rw [← CodePoint.ofNat?_eq_none, point]
        exact Option.some_ne_none _
      simp only [reduceCtorEq, false_iff, not_and]
      omega

theorem characterParts_eq_overflow :
    characterParts spec number = .error (.overflow overflow) ↔
      (spec.sign = .onlyMinus ∧ spec.alternate = false) ∧ NoCodePoint number overflow := by
  by_cases plain : spec.sign = .onlyMinus ∧ spec.alternate = false
  · rw [and_iff_right plain]
    rcases plain with ⟨sign, alternate⟩
    by_cases far : number < -2 ^ 63 ∨ 2 ^ 63 ≤ number
    · rw [characterParts_of_far sign alternate far]
      constructor
      · rintro ⟨⟩
        exact .pastWord far
      · rintro (_ | ⟨near, _⟩)
        · rfl
        · omega
    · rw [characterParts_of_near sign alternate (by omega)]
      constructor
      · rintro ⟨rfl, outside⟩
        exact .inWord (by omega) outside
      · rintro (far | ⟨_, outside⟩)
        · omega
        · exact ⟨rfl, outside⟩
  · rw [iff_false_right fun both => plain both.1, characterParts]
    rw [not_and_or] at plain
    split
    · nofun
    · split
      · nofun
      · simp_all

theorem integerParts_eq_overflow :
    integerParts spec number = .error (.overflow overflow) ↔
      spec.IsCharacter ∧ NoCodePoint number overflow := by
  unfold integerParts
  split
  · rename_i precision
    refine ⟨nofun, ?_⟩
    rintro ⟨asked, _⟩
    simp [asked.precision] at precision
  · split
    · rename_i coerced
      refine ⟨nofun, ?_⟩
      rintro ⟨asked, _⟩
      simp [asked.noNegativeZero] at coerced
    · split
      · rename_i precision coerced code
        rw [characterParts_eq_overflow]
        constructor
        · rintro ⟨⟨sign, alternate⟩, misfit⟩
          exact ⟨⟨code, by simpa using precision, by simpa using coerced, sign, alternate⟩, misfit⟩
        · rintro ⟨asked, misfit⟩
          exact ⟨⟨asked.sign, asked.alternate⟩, misfit⟩
      · rename_i code
        refine ⟨?_, fun ⟨asked, _⟩ => absurd asked.code code⟩
        dsimp only
        split <;> nofun

theorem realParts_ne_overflow {real : Binary64} :
    realParts spec real ≠ .error (.overflow overflow) := by
  unfold realParts
  split
  · nofun
  · extract_lets
    generalize (if spec.code = .scalar '%' then real.scaleBy 100 else real) = scaled
    cases scaled <;> nofun

theorem presentReal_ne_overflow {real : Binary64} :
    presentReal spec real ≠ .error (.overflow overflow) := by
  intro overflows
  rw [presentReal, bind_eq_error] at overflows
  rcases overflows with overflows | ⟨_, _, overflows⟩
  · exact realParts_ne_overflow overflows
  · cases overflows

/-- No number is presented both as a code point and as a binary number. -/
theorem not_mem_realCodes_of_mem_integerCodes :
    ∀ code ∈ integerCodes, code ∉ realCodes := by
  decide

theorem mem_integerCodes_of_isCharacter (asked : spec.IsCharacter) : spec.code ∈ integerCodes := by
  rw [asked.code]
  decide

section Integer

variable {kindName text : Text}

theorem presentInteger_of_understood
    (understood : Spec.read ⟨.right, 'd', kindName⟩ text = .ok spec) :
    presentInteger kindName text number =
      if spec.code ∈ integerCodes then
        (fun parts => parts.present spec) <$> integerParts spec number
      else if spec.code ∈ realCodes then
        match Binary64.ofInt number with
        | .infinite _ => .error (.overflow .pastReal)
        | real => presentReal spec real
      else .error (.format (.unknownCode spec.code kindName)) := by
  simp only [presentInteger, understood, List.contains_iff_mem]
  rfl

theorem ofInt_overflows :
    (match Binary64.ofInt number with
      | .infinite _ => .error (.overflow .pastReal)
      | real => presentReal spec real) = (.error (.overflow overflow) : Except _ Text) ↔
      Binary64.halfPastGreatest ≤ number.natAbs ∧ overflow = .pastReal := by
  rw [← Binary64.ofInt_eq_infinite]
  cases rounded : Binary64.ofInt number with
  | infinite sign => simp [eq_comm]
  | finite => simpa using presentReal_ne_overflow
  | nan => simpa using presentReal_ne_overflow

/-- A whole number under a specification that is understood overflows exactly if it does not fit. -/
theorem presentInteger_eq_overflow :
    presentInteger kindName text number = .error (.overflow overflow) ↔
      ∃ spec, Spec.read ⟨.right, 'd', kindName⟩ text = .ok spec ∧ Unfit spec number overflow := by
  cases understood : Spec.read ⟨.right, 'd', kindName⟩ text with
  | error fault => simp [presentInteger, understood, Except.mapError, bind, Except.bind]
  | ok spec =>
    simp only [Except.ok.injEq, exists_eq_left']
    rw [presentInteger_of_understood understood]
    split
    · rename_i integer
      rw [map_eq_error, integerParts_eq_overflow]
      constructor
      · rintro ⟨asked, misfit⟩
        exact .character asked misfit
      · rintro (⟨asked, misfit⟩ | ⟨asked, _⟩)
        · exact ⟨asked, misfit⟩
        · exact absurd asked (not_mem_realCodes_of_mem_integerCodes _ integer)
    · rename_i notInteger
      have notCharacter : ¬spec.IsCharacter :=
        fun asked => notInteger (mem_integerCodes_of_isCharacter asked)
      split
      · rename_i real
        rw [ofInt_overflows]
        constructor
        · rintro ⟨far, rfl⟩
          exact .real real far
        · rintro (⟨asked, _⟩ | ⟨_, far⟩)
          · exact absurd asked notCharacter
          · exact ⟨far, rfl⟩
      · rename_i notReal
        refine ⟨nofun, ?_⟩
        rintro (⟨asked, _⟩ | ⟨asked, _⟩)
        · exact absurd asked notCharacter
        · exact absurd asked notReal

end Integer

/-- A number that does not fit is negative, or past the numbers of all code points. -/
theorem Unfit.outside (unfit : Unfit spec number overflow) : number < 0 ∨ 0x110000 ≤ number := by
  rcases unfit with ⟨_, far | ⟨_, outside⟩⟩ | ⟨_, far⟩
  · omega
  · exact outside
  · have : 0x110000 < Binary64.halfPastGreatest := Binary64.lt_threshold (by decide)
    omega

/-- A text or a display is written or refused for its format alone. -/
theorem mapError_format_ne_overflow {α : Type} {formatted : Except FormatFault α} :
    formatted.mapError PresentationFault.format ≠ .error (.overflow overflow) := by
  cases formatted <;> simp [Except.mapError]

/-- Only whole numbers overflow. -/
theorem present_ne_overflow {text : Text} {value : Datum} (other : ∀ number, value ≠ .int number) :
    present text value ≠ .error (.overflow overflow) := by
  intro overflows
  unfold present at overflows
  by_cases empty : text.isEmpty
  · rw [if_pos empty] at overflows
    exact mapError_format_ne_overflow overflows
  rw [if_neg empty] at overflows
  cases value with
  | int number => exact other number rfl
  | bool truth =>
    rcases presentInteger_eq_overflow.mp overflows with ⟨_, _, unfit⟩
    have outside := unfit.outside
    split at outside <;> omega
  | real number =>
    rcases bind_eq_error.mp overflows with refused | ⟨_, _, presented⟩
    · exact mapError_format_ne_overflow refused
    · split at presented
      · exact presentReal_ne_overflow presented
      · cases presented
  | text content =>
    rcases bind_eq_error.mp overflows with refused | ⟨_, _, presented⟩
    · exact mapError_format_ne_overflow refused
    · split at presented
      · exact mapError_format_ne_overflow presented
      · cases presented
  | null | moment | list | record => cases overflows

/-- A value overflows exactly if it is a whole number that does not fit a specification that is
understood. -/
theorem present_eq_overflow {text : Text} {value : Datum} :
    present text value = .error (.overflow overflow) ↔
      text ≠ [] ∧ ∃ number spec, value = .int number ∧
        Spec.read ⟨.right, 'd', "int"⟩ text = .ok spec ∧ Unfit spec number overflow := by
  by_cases whole : ∃ number, value = .int number
  · rcases whole with ⟨number, rfl⟩
    cases text with
    | nil => simp [present]
    | cons first rest =>
      have : present (first :: rest) (.int number) = presentInteger "int" (first :: rest) number := rfl
      rw [this, presentInteger_eq_overflow]
      simp
  · have other : ∀ number, value ≠ .int number := fun number same => whole ⟨number, same⟩
    rw [iff_false_left (present_ne_overflow other)]
    rintro ⟨_, number, _, same, _⟩
    exact other number same

/-! ### Tokens and templates -/

theorem convert_eq_ok {conversion : CodePoint} {value converted : Datum}
    (converts : convert conversion value = .ok converted) : ∃ text, converted = .text text := by
  unfold convert at converts
  split at converts
  · rcases map_eq_ok.mp converts with ⟨text, _, rfl⟩
    exact ⟨text, rfl⟩
  · split at converts
    · rcases map_eq_ok.mp converts with ⟨text, _, rfl⟩
      exact ⟨text, rfl⟩
    · split at converts
      · rcases map_eq_ok.mp converts with ⟨text, _, rfl⟩
        exact ⟨_, rfl⟩
      · cases converts

theorem Token.write_eq_overflow {token : Token} {value : Datum} :
    token.write value = .error (.overflow overflow) ↔
      token.conversion = none ∧ present token.spec value = .error (.overflow overflow) := by
  unfold Token.write
  cases token.conversion with
  | none => simp
  | some conversion =>
    rw [iff_false_right (by simp)]
    intro overflows
    rcases bind_eq_error.mp overflows with refused | ⟨_, converted, presented⟩
    · exact mapError_format_ne_overflow refused
    · rcases convert_eq_ok (mapError_eq_ok.mp converted) with ⟨text, rfl⟩
      exact present_ne_overflow (by simp) presented

/-- A token has a whole number for its value that does not fit its specification. -/
structure Token.Overflows (values : Fields) (token : Token) (overflow : Overflow) : Prop where
  plain : isPlainName token.name
  unconverted : token.conversion = none
  specified : token.spec ≠ []
  unfit : ∃ number spec, values.get? token.name = some (.int number) ∧
    Spec.read ⟨.right, 'd', "int"⟩ token.spec = .ok spec ∧ Unfit spec number overflow

theorem Token.substitute_eq_overflow {token : Token} {values : Fields} :
    token.substitute values = .error (.overflow overflow) ↔ token.Overflows values overflow := by
  constructor
  · intro overflows
    unfold Token.substitute at overflows
    split at overflows
    · rename_i plain
      split at overflows
      · cases overflows
      · rename_i value given
        split at overflows
        · cases overflows
        · cases overflows
        · rename_i written
          cases overflows
          rcases write_eq_overflow.mp written with ⟨unconverted, presented⟩
          rcases present_eq_overflow.mp presented with ⟨specified, number, spec, rfl, unfit⟩
          exact ⟨plain, unconverted, specified, number, spec, given, unfit⟩
    · cases overflows
  · rintro ⟨plain, unconverted, specified, number, spec, given, unfit⟩
    have written : token.write (.int number) = .error (.overflow overflow) :=
      write_eq_overflow.mpr
        ⟨unconverted, present_eq_overflow.mpr ⟨specified, number, spec, rfl, unfit⟩⟩
    simp only [Token.substitute, plain, if_true, given, written]

theorem Piece.substitute_eq_overflow {piece : Piece} {values : Fields} :
    piece.substitute values = .error (.overflow overflow) ↔
      ∃ token, piece = .token token ∧ token.Overflows values overflow := by
  cases piece with
  | literal point => simp [Piece.substitute]
  | token token => simp [Piece.substitute, Token.substitute_eq_overflow]

/-- The first token of a template that cannot be replaced has a whole number that does not fit. -/
def Overflows (template : Text) (values : Fields) (overflow : Overflow) : Prop :=
  ∃ before token after, pieces template = .ok (before ++ .token token :: after) ∧
    (∀ piece ∈ before, ∃ text, piece.substitute values = .ok text) ∧
    token.Overflows values overflow

theorem substitute_eq_overflow {template : Text} {values : Fields} :
    substitute template values = .error (.overflow overflow) ↔
      Overflows template values overflow := by
  simp only [substitute, bind_eq_error, mapError_eq_error, mapError_eq_ok, reduceCtorEq, and_false,
    exists_false, false_or, pure_ne_error, or_false, mapM_eq_error, Piece.substitute_eq_overflow]
  constructor
  · rintro ⟨_, read, before, _, after, rfl, written, token, rfl, overflows⟩
    exact ⟨before, token, after, read, written, overflows⟩
  · rintro ⟨before, token, after, read, written, overflows⟩
    exact ⟨_, read, before, _, after, rfl, written, token, rfl, overflows⟩

end Template

end Phrasebook
