import Phrasebook.Datum
import Phrasebook.Text.Taken
import Phrasebook.Toml.Fault

/-!
# Scalars of settings files

Texts, moments and numbers as TOML writes them. A text stands between quotes or apostrophes, three of
them if it may go over several lines; only quotes allow escapes. The digits of a number may be
separated by underscores, and a number with a fraction or an exponent is a binary one.
-/

namespace Phrasebook.Toml

/-- Why reading stopped, with the number of code points left at the faulty place. -/
inductive Stop where
  | malformed (reason : Reason) (left : Nat)
  | numberTooLong (digits : Nat)
  | tooDeep
deriving DecidableEq, Repr

/-- Whether a code point is a blank within a line. -/
def isBlank (point : CodePoint) : Bool := point = ' ' || point = '\t'

/-- Whether a code point is a blank or a line break. -/
def isSpace (point : CodePoint) : Bool := isBlank point || point = '\n'

/-- Skips blanks within a line. -/
def skipBlanks (text : Text) : Text := text.dropWhile isBlank

/-- Skips blanks and line breaks. -/
def skipSpace (text : Text) : Text := text.dropWhile isSpace

theorem dropWhile_length_le (test : CodePoint → Bool) (text : Text) :
    (text.dropWhile test).length ≤ text.length :=
  (List.dropWhile_sublist test).length_le

theorem dropWhile_shorter (test : CodePoint → Bool) (first : CodePoint) (text : Text) :
    (text.dropWhile test).length < (first :: text).length :=
  Nat.lt_succ_of_le (dropWhile_length_le test text)

theorem skipBlanks_length_le (text : Text) : (skipBlanks text).length ≤ text.length :=
  dropWhile_length_le isBlank text

theorem skipSpace_length_le (text : Text) : (skipSpace text).length ≤ text.length :=
  dropWhile_length_le isSpace text

/-- Whether a line may not hold a code point: all control characters but the tab. -/
def isControl (point : CodePoint) : Bool :=
  (point.value < 0x20 && point ≠ '\t') || point.value = 0x7F

/-- Whether a text of several lines may not hold a code point. -/
def isControlInLines (point : CodePoint) : Bool := isControl point && point ≠ '\n'

/-- Refuses the first code point of a piece that is not allowed there. The number is that of the code
points after the piece. -/
def refuse (isRefused : CodePoint → Bool) (piece : Text) (after : Nat) : Except Stop Unit :=
  match piece.dropWhile fun point => !isRefused point with
  | [] => .ok ()
  | point :: rest =>
    .error (.malformed (.invalidCharacter point) (rest.length + 1 + after))

/-! ### Texts between apostrophes -/

/-- The piece before the first closing mark, and the rest after the mark. -/
def before? (mark : Text) (text : Text) : Option (Text × Text) :=
  match Text.dropStart? mark text with
  | some rest => some ([], rest)
  | none =>
    match text with
    | [] => none
    | point :: rest => (before? mark rest).map fun found => (point :: found.1, found.2)

theorem dropStart?_length {start text rest : Text} (found : Text.dropStart? start text = some rest) :
    start.length + rest.length = text.length := by
  fun_induction Text.dropStart? start text <;> grind

theorem before?_length {mark text piece rest : Text} (found : before? mark text = some (piece, rest)) :
    piece.length + mark.length + rest.length = text.length := by
  induction text generalizing piece rest with
  | nil =>
    unfold before? at found
    split at found
    · rename_i dropped
      have := dropStart?_length dropped
      simp only [Option.some.injEq, Prod.mk.injEq] at found
      grind
    · simp at found
  | cons point text ih =>
    unfold before? at found
    split at found
    · rename_i dropped
      have := dropStart?_length dropped
      simp only [Option.some.injEq, Prod.mk.injEq] at found
      grind
    · simp only [Option.map_eq_some_iff] at found
      obtain ⟨⟨inner, after⟩, foundInner, same⟩ := found
      have := ih foundInner
      grind

/-- Reads up to a closing mark without escapes. -/
def literal (mark : Text) (isRefused : CodePoint → Bool) (text : Text) :
    Except Stop { read : Text × Text // read.2.length ≤ text.length } :=
  match found : before? mark text with
  | none => .error (.malformed (.missingQuote mark) 0)
  | some (piece, rest) => do
    refuse isRefused piece (mark.length + rest.length)
    return ⟨(piece, rest), by
      have := before?_length found
      simp only
      omega⟩

/-! ### Texts between quotes -/

/-- The character that a one-letter escape stands for. -/
def letterEscape? (point : CodePoint) : Option CodePoint :=
  if point = 'b' then some '\x08'
  else if point = 't' then some '\t'
  else if point = 'n' then some '\n'
  else if point = 'f' then some '\x0c'
  else if point = 'r' then some '\r'
  else if point = '"' ∨ point = '\\' then some point
  else none

/-- The number written by hexadecimal digits in either case. -/
def hexadecimal? (digits : Text) : Option Nat :=
  digits.foldlM (fun total digit => digit.hexDigit?.map (total * 16 + ·)) 0

/-- Reads an escape by number with a given count of digits. -/
def numberEscape (count : Nat) (text : Text) :
    Except Stop { read : Text × Text // read.2.length ≤ text.length } :=
  let digits := text.take count
  match if digits.length = count then hexadecimal? digits else none with
  | none => .error (.malformed .badHexadecimal text.length)
  | some number =>
    match CodePoint.ofNat? number with
    | some (.scalar char) => .ok ⟨([.scalar char], text.drop count), by simp⟩
    | _ => .error (.malformed .notScalar (text.length - count))

/-- Reads a line break that an escape takes away, with the blanks around it. -/
def continuation (text : Text) :
    Except Stop { read : Text × Text // read.2.length ≤ text.length } :=
  match skipped : skipBlanks text with
  | [] => .ok ⟨([], []), by simp⟩
  | .scalar '\n' :: rest =>
    .ok ⟨([], skipSpace rest), by
      have blanks := skipBlanks_length_le text
      have space := skipSpace_length_le rest
      rw [skipped, List.length_cons] at blanks
      simp only
      omega⟩
  | other => .error (.malformed .badEscape other.length)

/-- Reads an escape after its backslash. -/
def escape (inLines : Bool) (text : Text) :
    Except Stop { read : Text × Text // read.2.length ≤ text.length } :=
  match text with
  | [] => .error (.malformed .badEscape 0)
  | letter :: rest =>
    let widen : { read : Text × Text // read.2.length ≤ rest.length } →
        { read : Text × Text // read.2.length ≤ (letter :: rest).length } :=
      fun read => ⟨read.1, Nat.le_succ_of_le read.2⟩
    if inLines && isSpace letter then (continuation (letter :: rest))
    else if letter = 'u' then (numberEscape 4 rest).map widen
    else if letter = 'U' then (numberEscape 8 rest).map widen
    else
      match letterEscape? letter with
      | some point => .ok ⟨([point], rest), by simp⟩
      | none => .error (.malformed .badEscape rest.length)

/-- Reads a text between quotes after its opening mark; what has been read comes last piece first. -/
def quoted (inLines : Bool) (read : List Text) (text : Text) :
    Except Stop { read : Text × Text // read.2.length < text.length } :=
  match text with
  | [] => .error (.malformed .unterminated 0)
  | .scalar '"' :: rest =>
    if inLines then
      match rest with
      | .scalar '"' :: .scalar '"' :: after => .ok ⟨(read.reverse.flatten, after), by simp; omega⟩
      | rest => (quoted inLines ("\"" :: read) rest).map fun found =>
          ⟨found.1, Nat.lt_succ_of_lt found.2⟩
    else .ok ⟨(read.reverse.flatten, rest), by simp⟩
  | .scalar '\\' :: rest =>
    match escape inLines rest with
    | .error stop => .error stop
    | .ok ⟨(piece, after), shorter⟩ =>
      (quoted inLines (piece :: read) after).map fun found => ⟨found.1, by
        have := found.2
        simp only [List.length_cons] at *
        omega⟩
  | point :: rest =>
    if (if inLines then isControlInLines point else isControl point) then
      .error (.malformed (.illegalCharacter point) (rest.length + 1))
    else
      (quoted inLines ([point] :: read) rest).map fun found => ⟨found.1, Nat.lt_succ_of_lt found.2⟩
termination_by text.length
decreasing_by
  · simp
  · simp only [List.length_cons] at *
    omega
  · simp

/-! ### Texts -/

/-- Up to two more marks belong to a text of several lines that ends before them. -/
def extraMarks (mark : CodePoint) (content rest : Text) :
    { read : Text × Text // read.2.length ≤ rest.length } :=
  match rest with
  | first :: second :: after =>
    if first = mark then
      if second = mark then
        ⟨(content ++ [mark, mark], after), Text.length_le_cons_cons first second after⟩
      else ⟨(content ++ [mark], second :: after), Text.length_le_cons first (second :: after)⟩
    else ⟨(content, first :: second :: after), Text.length_le_self (first :: second :: after)⟩
  | [first] =>
    if first = mark then ⟨(content ++ [mark], []), Text.length_le_cons first []⟩
    else ⟨(content, [first]), Text.length_le_self [first]⟩
  | [] => ⟨(content, []), Text.length_le_self []⟩

/-- Reads a text on one line after its opening double mark. -/
def doubleQuoted (mark : CodePoint) (text : Text) : Except Stop (Taken Text (mark :: text)) :=
  (quoted false [] text).map fun read => ⟨read.1.1, read.1.2, Nat.lt_succ_of_lt read.2⟩

/-- Reads a text on one line after its opening single mark. -/
def singleQuoted (mark : CodePoint) (text : Text) : Except Stop (Taken Text (mark :: text)) :=
  (literal "'" isControl text).map fun read => ⟨read.1.1, read.1.2, Nat.lt_succ_of_le read.2⟩

/-- A line break right after the opening mark is left out. -/
def dropBreak (text : Text) : { rest : Text // rest.length ≤ text.length } :=
  match text with
  | .scalar '\n' :: rest => ⟨rest, by simp⟩
  | text => ⟨text, by simp⟩

/-- Reads a text, if one starts here. -/
def string? (text : Text) : Option (Except Stop (Taken Text text)) :=
  match text with
  | .scalar '"' :: .scalar '"' :: .scalar '"' :: rest =>
    let body := dropBreak rest
    some ((quoted true [] body.1).map fun read =>
      let full := extraMarks '"' read.1.1 read.1.2
      ⟨full.1.1, full.1.2, by
        have := body.2
        have := read.2
        have := full.2
        simp only [List.length_cons]
        omega⟩)
  | .scalar '"' :: rest => some (doubleQuoted (.scalar '"') rest)
  | .scalar '\'' :: .scalar '\'' :: .scalar '\'' :: rest =>
    let body := dropBreak rest
    some ((literal "'''" isControlInLines body.1).map fun read =>
      let full := extraMarks '\'' read.1.1 read.1.2
      ⟨full.1.1, full.1.2, by
        have := body.2
        have := read.2
        have := full.2
        simp only [List.length_cons]
        omega⟩)
  | .scalar '\'' :: rest => some (singleQuoted (.scalar '\'') rest)
  | _ => none

/-! ### Moments -/

/-- Takes one given code point. -/
def symbol? (point : CodePoint) (text : Text) : Option (Taken Unit text) :=
  match text with
  | first :: rest => if first = point then some ⟨(), rest, by simp⟩ else none
  | [] => none

/-- Takes two digits whose number lies between two bounds. -/
def twoDigits? (least greatest : Nat) (text : Text) : Option (Taken Nat text) :=
  match text with
  | tens :: units :: rest => do
    let number := 10 * (← tens.digit?) + (← units.digit?)
    if least ≤ number ∧ number ≤ greatest then
      some ⟨number, rest, by simp only [List.length_cons]; omega⟩
    else none
  | _ => none

/-- Takes a day: four digits of the year, two of the month and two of the day. -/
def date? (text : Text) : Option (Taken Date text) := do
  let century ← twoDigits? 0 99 text
  let year ← twoDigits? 0 99 century.rest
  let first ← symbol? '-' year.rest
  let month ← twoDigits? 1 12 first.rest
  let second ← symbol? '-' month.rest
  let day ← twoDigits? 1 31 second.rest
  return ⟨⟨100 * century.value + year.value, month.value, day.value⟩, day.rest, by
    have := century.shorter
    have := year.shorter
    have := first.shorter
    have := month.shorter
    have := second.shorter
    have := day.shorter
    omega⟩

/-- Takes the digits of a fraction of a second, of which six count. -/
def microsecond? (text : Text) : Option (Taken Nat text) :=
  match text with
  | .scalar '.' :: rest =>
    let digits := rest.takeWhile CodePoint.isAsciiDigit
    if digits.isEmpty then none
    else
      let counted := digits.take 6
      some ⟨Numeral.ofDigits (counted ++ List.replicate (6 - counted.length) (.scalar '0')),
        rest.dropWhile CodePoint.isAsciiDigit, by
          have := dropWhile_length_le CodePoint.isAsciiDigit rest
          simp only [List.length_cons]
          omega⟩
  | _ => none

/-- Takes a time of day. -/
def time? (text : Text) : Option (Taken TimeOfDay text) := do
  let hour ← twoDigits? 0 23 text
  let first ← symbol? ':' hour.rest
  let minute ← twoDigits? 0 59 first.rest
  let second ← symbol? ':' minute.rest
  let seconds ← twoDigits? 0 59 second.rest
  have shorter : seconds.rest.length < text.length := by
    have := hour.shorter
    have := first.shorter
    have := minute.shorter
    have := second.shorter
    have := seconds.shorter
    omega
  match microsecond? seconds.rest with
  | none => return ⟨⟨hour.value, minute.value, seconds.value, 0⟩, seconds.rest, shorter⟩
  | some fraction =>
    return ⟨⟨hour.value, minute.value, seconds.value, fraction.value⟩, fraction.rest,
      Nat.lt_trans fraction.shorter shorter⟩

/-- Takes an offset from universal time in minutes. -/
def offset? (text : Text) : Option (Taken Int text) :=
  match text with
  | [] => none
  | mark :: rest =>
    if mark = 'Z' ∨ mark = 'z' then some ⟨0, rest, by simp⟩
    else if mark = '+' ∨ mark = '-' then do
      let hour ← twoDigits? 0 23 rest
      let colon ← symbol? ':' hour.rest
      let minute ← twoDigits? 0 59 colon.rest
      let total : Int := 60 * hour.value + minute.value
      return ⟨if mark = '-' then -total else total, minute.rest, by
        have := hour.shorter
        have := colon.shorter
        have := minute.shorter
        simp only [List.length_cons]
        omega⟩
    else none

/-- The number of days of a month. -/
def daysOf (year month : Nat) : Nat :=
  if month = 2 then
    if (year % 4 = 0 ∧ year % 100 ≠ 0) ∨ year % 400 = 0 then 29 else 28
  else if [4, 6, 9, 11].contains month then 30
  else 31

/-- Whether the calendar has a day. It starts with the year one. -/
def isDay (date : Date) : Bool := 1 ≤ date.year && date.day ≤ daysOf date.year date.month

/-- Takes the time of day after a day. -/
def timeAfterDay? (text : Text) : Option (Taken TimeOfDay text) :=
  match text with
  | mark :: rest =>
    if mark = 'T' ∨ mark = 't' ∨ mark = ' ' then (time? rest).map Taken.afterHead else none
  | [] => none

/-- Reads a moment, if one starts here. -/
def moment? (text : Text) : Option (Except Stop (Taken Moment text)) :=
  match date? text with
  | none => (time? text).map fun clock => .ok (clock.map .time)
  | some day =>
    some (if !isDay day.value then .error (.malformed .invalidDate text.length)
      else
        match timeAfterDay? day.rest with
        | none => .ok (day.map .date)
        | some clock =>
          have shorter := Nat.lt_trans clock.shorter day.shorter
          match offset? clock.rest with
          | none => .ok ⟨.local day.value clock.value, clock.rest, shorter⟩
          | some offset =>
            .ok ⟨.fixed day.value clock.value offset.value, offset.rest,
              Nat.lt_trans offset.shorter shorter⟩)

/-! ### Numbers -/

/-- Takes digits, between any two of which one underscore may stand. The digits come without the
underscores. -/
def digits? (isDigit : CodePoint → Bool) (text : Text) : Option (Taken Text text) :=
  match text with
  | [] => none
  | digit :: rest =>
    if isDigit digit then
      match rest with
      | .scalar '_' :: others =>
        match digits? isDigit others with
        | some more => some ⟨digit :: more.value, more.rest, by
            have := more.shorter
            simp only [List.length_cons]
            omega⟩
        | none => some ⟨[digit], .scalar '_' :: others, by simp⟩
      | others =>
        match digits? isDigit others with
        | some more => some ⟨digit :: more.value, more.rest, Nat.lt_succ_of_lt more.shorter⟩
        | none => some ⟨[digit], others, by simp⟩
    else none
termination_by text.length

/-- The base that a letter after a zero announces. -/
def announcedBase? (letter : CodePoint) : Option Nat :=
  if letter = 'x' then some 16
  else if letter = 'b' then some 2
  else if letter = 'o' then some 8
  else none

/-- The number written by digits in a base. -/
def inBase (base : Nat) (digits : Text) : Nat :=
  digits.foldl (fun total digit => total * base + digit.hexDigit?.getD 0) 0

/-- Takes a whole number with its base in front. -/
def based? (text : Text) : Option (Taken Int text) :=
  match text with
  | .scalar '0' :: letter :: rest => do
    let base ← announcedBase? letter
    let digits ← digits? (fun point => point.hexDigit?.any (· < base)) rest
    return ⟨(inBase base digits.value : Nat), digits.rest, by
      have := digits.shorter
      simp only [List.length_cons]
      omega⟩
  | _ => none

/-- Takes the digits of the whole part of a number: a zero, or digits of which the first is not
zero. -/
def whole? (text : Text) : Option (Taken Text text) :=
  match text with
  | .scalar '0' :: rest => some ⟨"0", rest, by simp⟩
  | text => digits? CodePoint.isAsciiDigit text

/-- Takes the fraction of a number. -/
def fraction? (text : Text) : Option (Taken Text text) := do
  let point ← symbol? '.' text
  let digits ← digits? CodePoint.isAsciiDigit point.rest
  return ⟨"." ++ digits.value, digits.rest, Nat.lt_trans digits.shorter point.shorter⟩

/-- Takes the exponent of a number. -/
def exponent? (text : Text) : Option (Taken Text text) :=
  match text with
  | mark :: sign :: rest =>
    if mark = 'e' ∨ mark = 'E' then
      if sign = '+' ∨ sign = '-' then
        (digits? CodePoint.isAsciiDigit rest).map fun digits =>
          ⟨[mark, sign] ++ digits.value, digits.rest, by
            have := digits.shorter
            simp only [List.length_cons]
            omega⟩
      else
        (digits? CodePoint.isAsciiDigit (sign :: rest)).map fun digits =>
          ⟨mark :: digits.value, digits.rest, Nat.lt_succ_of_lt digits.shorter⟩
    else none
  | _ => none

/-- The most digits of a whole decimal number that can be converted. -/
def digitLimit : Nat := 4300

/-- Takes a decimal number without its sign. -/
def decimal? (negative : Bool) (text : Text) : Option (Except Stop (Taken Datum text)) :=
  (whole? text).map fun whole =>
    let size : Int := Numeral.ofDigits whole.value
    let real (digits : Text) : Datum := .real (Binary64.ofNumeral negative digits)
    match fraction? whole.rest with
    | none =>
      match exponent? whole.rest with
      | none =>
        if digitLimit < whole.value.length then .error (.numberTooLong whole.value.length)
        else .ok (whole.map fun _ => .int (if negative then -size else size))
      | some power =>
        .ok ⟨real (whole.value ++ power.value), power.rest,
          Nat.lt_trans power.shorter whole.shorter⟩
    | some decimals =>
      have shorter := Nat.lt_trans decimals.shorter whole.shorter
      match exponent? decimals.rest with
      | none => .ok ⟨real (whole.value ++ decimals.value), decimals.rest, shorter⟩
      | some power =>
        .ok ⟨real (whole.value ++ decimals.value ++ power.value), power.rest,
          Nat.lt_trans power.shorter shorter⟩

/-- Takes a word for a value that is no finite number. -/
def word? (negative : Bool) (text : Text) : Option (Taken Datum text) :=
  match text with
  | .scalar 'i' :: .scalar 'n' :: .scalar 'f' :: rest =>
    some ⟨.real (.infinite negative), rest, by simp only [List.length_cons]; omega⟩
  | .scalar 'n' :: .scalar 'a' :: .scalar 'n' :: rest =>
    some ⟨.real .nan, rest, by simp only [List.length_cons]; omega⟩
  | _ => none

/-- Takes a number or a word after its sign. -/
def unsigned? (negative : Bool) (text : Text) : Option (Except Stop (Taken Datum text)) :=
  match decimal? negative text with
  | some number => some number
  | none => (word? negative text).map .ok

/-- Reads a number, if one starts here. -/
def number? (text : Text) : Option (Except Stop (Taken Datum text)) :=
  match based? text with
  | some number => some (.ok (number.map .int))
  | none =>
    match text with
    | .scalar '+' :: rest => (unsigned? false rest).map (·.map Taken.afterHead)
    | .scalar '-' :: rest => (unsigned? true rest).map (·.map Taken.afterHead)
    | text => unsigned? false text

end Phrasebook.Toml
