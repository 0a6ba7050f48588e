import Phrasebook.Datum
import Phrasebook.Host
import Phrasebook.Json.Fault
import Phrasebook.Text.Taken

/-!
# Reading JSON

A recursive reader over the code points that are left. Each part of the grammar takes a piece from
the front and hands back the rest, and every value leaves a shorter rest, which is why reading ends.
Besides the standard grammar the numbers `NaN`, `Infinity` and `-Infinity` are read, and a half of
a surrogate pair may be escaped on its own. A repeated field keeps its first place and takes its
last value.

A fault is found at the code points that are left, and so its offset is what has been read before.
-/

namespace Phrasebook.Json

/-- The most digits of a whole number that can be converted. -/
def digitLimit : Nat := 4300

/-- Why reading stopped, with the number of code points left at the faulty place. -/
inductive Stop where
  | malformed (reason : Reason) (left : Nat)
  | numberTooLong (digits : Nat)
  | tooDeep
deriving DecidableEq, Repr

/-- Whether a code point is white space between tokens. -/
def isSpace (point : CodePoint) : Bool :=
  point = ' ' || point = '\t' || point = '\n' || point = '\r'

/-- Skips white space. -/
def skipSpace (text : Text) : Text := text.dropWhile isSpace

theorem skipSpace_length_le (text : Text) : (skipSpace text).length ≤ text.length :=
  (List.dropWhile_sublist isSpace).length_le

/-! ### Strings -/

/-- The number written by four hexadecimal digits. -/
def fourDigits? (first second third fourth : CodePoint) : Option Nat := do
  let first ← first.hexDigit?
  let second ← second.hexDigit?
  let third ← third.hexDigit?
  let fourth ← fourth.hexDigit?
  return ((first * 16 + second) * 16 + third) * 16 + fourth

/-- The character that a one-letter escape stands for. -/
def letterEscape? (point : CodePoint) : Option CodePoint :=
  if point = '"' ∨ point = '\\' ∨ point = '/' then some point
  else if point = 'b' then some '\x08'
  else if point = 'f' then some '\x0c'
  else if point = 'n' then some '\n'
  else if point = 'r' then some '\r'
  else if point = 't' then some '\t'
  else none

/-- The code point of a surrogate pair. -/
def joinPair? (high low : Nat) : Option CodePoint :=
  if 0xD800 ≤ high ∧ high < 0xDC00 ∧ 0xDC00 ≤ low ∧ low < 0xE000 then
    CodePoint.ofNat? (0x10000 + (high - 0xD800) * 0x400 + (low - 0xDC00))
  else none

/-- Whether a number is that of a high surrogate. -/
def isHigh (number : Nat) : Bool := 0xD800 ≤ number && number < 0xDC00

/-- The second half of an escaped pair, when an escape follows with one more code point after it:
the code point that both halves make, if they make one, and the rest after it. A faulty second
escape stops the reader. -/
def secondHalf (high : Nat) : Text → Except Stop (Option (CodePoint × Text))
  | .scalar '\\' :: .scalar 'u' :: first :: second :: third :: fourth :: next :: rest =>
    match fourDigits? first second third fourth with
    | none => .error (.malformed .badNumberEscape (rest.length + 6))
    | some low => .ok ((joinPair? high low).map (·, next :: rest))
  | _ => .ok none

/-- Reads an escape by number after its `u`: the code point it stands for, and the rest. One code
point has to follow the digits. -/
def numberEscape (text : Text) : Except Stop (Text × Text) :=
  match text with
  | first :: second :: third :: fourth :: next :: rest =>
    match fourDigits? first second third fourth with
    | none => .error (.malformed .badNumberEscape (rest.length + 6))
    | some number =>
      if isHigh number then
        match secondHalf number (next :: rest) with
        | .error stop => .error stop
        | .ok (some (point, after)) => .ok ([point], after)
        | .ok none => .ok ((CodePoint.ofNat? number).toList, next :: rest)
      else .ok ((CodePoint.ofNat? number).toList, next :: rest)
  | _ => .error (.malformed .badNumberEscape (text.length + 1))

theorem secondHalf_shorter {high : Nat} {text : Text} {point : CodePoint} {rest : Text}
    (found : secondHalf high text = .ok (some (point, rest))) : rest.length < text.length := by
  unfold secondHalf at found
  split at found
  · split at found
    · cases found
    · simp only [Except.ok.injEq, Option.map_eq_some_iff, Prod.mk.injEq] at found
      obtain ⟨_, _, _, rfl⟩ := found
      simp
  · cases found

theorem numberEscape_shorter {text points rest : Text}
    (found : numberEscape text = .ok (points, rest)) : rest.length < text.length := by
  unfold numberEscape at found
  split at found
  · split at found
    · cases found
    · split at found
      · split at found
        · cases found
        · have := secondHalf_shorter ‹_›
          simp only [Except.ok.injEq, Prod.mk.injEq] at found
          simp only [List.length_cons, ← found.2] at this ⊢
          omega
        · simp only [Except.ok.injEq, Prod.mk.injEq] at found
          simp [← found.2]
      · simp only [Except.ok.injEq, Prod.mk.injEq] at found
        simp [← found.2]
  · cases found

/-- Reads the rest of a string after its opening quote. The code points already read stand last one
first, and `start` is the text from the opening quote on. -/
def stringBody (start read text : Text) : Except Stop (Text × Text) :=
  match text with
  | [] => .error (.malformed .unterminatedString start.length)
  | .scalar '"' :: rest => .ok (read.reverse, rest)
  | [.scalar '\\'] => .error (.malformed .unterminatedString start.length)
  | .scalar '\\' :: .scalar 'u' :: rest =>
    match found : numberEscape rest with
    | .error stop => .error stop
    | .ok (points, after) =>
      have := numberEscape_shorter found
      stringBody start (points ++ read) after
  | .scalar '\\' :: letter :: rest =>
    match letterEscape? letter with
    | none => .error (.malformed .badEscape (rest.length + 2))
    | some point => stringBody start (point :: read) rest
  | point :: rest =>
    if point.value < 0x20 then .error (.malformed .controlCharacter (rest.length + 1))
    else stringBody start (point :: read) rest
termination_by text.length
decreasing_by all_goals simp_all <;> omega

theorem stringBody_shorter {start read text value rest : Text}
    (found : stringBody start read text = .ok (value, rest)) : rest.length < text.length := by
  fun_induction stringBody start read text <;> grind [numberEscape_shorter]

/-! ### Numbers and words -/

/-- The digits at the front of a text, and the rest. -/
def digitRun (text : Text) : Text × Text :=
  (text.takeWhile CodePoint.isAsciiDigit, text.dropWhile CodePoint.isAsciiDigit)

/-- The fraction at the front of a text, if a digit follows the point. -/
def fraction (text : Text) : Text × Text :=
  match text with
  | .scalar '.' :: digit :: rest =>
    if digit.isAsciiDigit then
      let (digits, rest) := digitRun rest
      (.scalar '.' :: digit :: digits, rest)
    else ([], text)
  | _ => ([], text)

/-- The sign at the front of an exponent. -/
def exponentSign : Text → Text × Text
  | .scalar '+' :: rest => ([.scalar '+'], rest)
  | .scalar '-' :: rest => ([.scalar '-'], rest)
  | text => ([], text)

/-- The exponent at the front of a text, if it has a digit. -/
def exponent (text : Text) : Text × Text :=
  match text with
  | mark :: rest =>
    if mark = 'e' ∨ mark = 'E' then
      let (sign, rest) := exponentSign rest
      let (digits, rest) := digitRun rest
      if digits.isEmpty then ([], text) else (mark :: sign ++ digits, rest)
    else ([], text)
  | [] => ([], text)

theorem digitRun_length (text : Text) :
    (digitRun text).1.length + (digitRun text).2.length = text.length := by
  rw [digitRun, ← List.length_append, List.takeWhile_append_dropWhile]

theorem fraction_length_le (text : Text) : (fraction text).2.length ≤ text.length := by
  unfold fraction
  split
  · rename_i digit rest
    have := digitRun_length rest
    split
    · simp only [List.length_cons]
      omega
    · simp
  · simp

theorem exponentSign_length_le (text : Text) : (exponentSign text).2.length ≤ text.length := by
  unfold exponentSign
  split <;> simp

theorem exponent_length_le (text : Text) : (exponent text).2.length ≤ text.length := by
  unfold exponent
  split
  · rename_i mark rest
    have sign := exponentSign_length_le rest
    have digits := digitRun_length (exponentSign rest).2
    split
    · simp only
      split
      · simp
      · simp only [List.length_cons]
        omega
    · simp
  · simp

theorem digitRun_shorter (first : CodePoint) (rest : Text) :
    (digitRun rest).2.length < (first :: rest).length := by
  have := digitRun_length rest
  simp only [List.length_cons]
  omega

/-- The whole part of a number: zero, or digits of which the first is not zero. -/
def wholePart (text : Text) : Option (Taken Text text) :=
  match text with
  | [] => none
  | first :: rest =>
    if first = '0' then some ⟨[first], rest, Text.length_lt_cons first rest⟩
    else if first.isAsciiDigit then
      some ⟨first :: (digitRun rest).1, (digitRun rest).2, digitRun_shorter first rest⟩
    else none

/-- Reads a number without its sign. It is a binary number if it has a fraction or an exponent. -/
def unsigned (negative : Bool) (text : Text) : Option (Except Stop (Taken Datum text)) :=
  (wholePart text).map fun whole =>
    let decimals := fraction whole.rest
    let power := exponent decimals.2
    if decimals.1.isEmpty && power.1.isEmpty then
      if digitLimit < whole.value.length then .error (.numberTooLong whole.value.length)
      else
        let size : Int := Numeral.ofDigits whole.value
        .ok ⟨.int (if negative then -size else size), whole.rest, whole.shorter⟩
    else
      .ok ⟨.real (Binary64.ofNumeral negative (whole.value ++ decimals.1 ++ power.1)), power.2, by
        have := whole.shorter
        have := fraction_length_le whole.rest
        have := exponent_length_le decimals.2
        simp only [decimals, power] at *
        omega⟩

/-- The words that stand for values. -/
def words : List (Text × Datum) :=
  [("null", .null), ("true", .bool true), ("false", .bool false), ("NaN", .real .nan),
    ("Infinity", .real (.infinite false)), ("-Infinity", .real (.infinite true))]

theorem dropStart?_length {start text rest : Text} (found : Text.dropStart? start text = some rest) :
    rest.length + start.length = text.length := by
  fun_induction Text.dropStart? start text <;> grind

/-- Reads a word that stands for a value. -/
def word? (text : Text) : List (Text × Datum) → Option (Taken Datum text)
  | [] => none
  | (name, value) :: others =>
    match found : Text.dropStart? name text with
    | some rest =>
      if positive : 0 < name.length then
        some ⟨value, rest, by
          have := dropStart?_length found
          omega⟩
      else word? text others
    | none => word? text others

/-- Reads a number. -/
def number (text : Text) : Except Stop (Taken Datum text) :=
  match text with
  | .scalar '-' :: rest =>
    match unsigned true rest with
    | some (.ok taken) => .ok ⟨taken.value, taken.rest, by
        have := taken.shorter
        simp only [List.length_cons]
        omega⟩
    | some (.error stop) => .error stop
    | none => .error (.malformed .missingValue (rest.length + 1))
  | text => (unsigned false text).getD (.error (.malformed .missingValue text.length))

/-- Reads a value that is neither a string, an array nor an object. -/
def atom (text : Text) : Except Stop (Taken Datum text) :=
  match word? text words with
  | some taken => .ok taken
  | none => number text

/-! ### Values -/

mutual

/-- Reads a value that may be nested a given number of times. -/
def value (depth : Nat) (text : Text) : Except Stop (Taken Datum text) :=
  match text with
  | .scalar '"' :: rest =>
    match found : stringBody (.scalar '"' :: rest) [] rest with
    | .error stop => .error stop
    | .ok (content, after) => .ok ⟨.text content, after, by
        have := stringBody_shorter found
        simp only [List.length_cons]
        omega⟩
  | .scalar '[' :: rest =>
    if depth = 0 then .error .tooDeep
    else
      match opened : skipSpace rest with
      | .scalar ']' :: after => .ok ⟨.list [], after, by
          have := skipSpace_length_le rest
          simp only [opened, List.length_cons] at this ⊢
          omega⟩
      | inner =>
        have := skipSpace_length_le rest
        match items (depth - 1) inner with
        | .error stop => .error stop
        | .ok taken => .ok ⟨.list taken.value, taken.rest, by
            have := taken.shorter
            simp only [opened, List.length_cons] at *
            omega⟩
  | .scalar '\x7b' :: rest =>
    if depth = 0 then .error .tooDeep
    else
      match opened : skipSpace rest with
      | .scalar '\x7d' :: after => .ok ⟨.record [], after, by
          have := skipSpace_length_le rest
          simp only [opened, List.length_cons] at this ⊢
          omega⟩
      | inner =>
        have := skipSpace_length_le rest
        match fields (depth - 1) [] inner with
        | .error stop => .error stop
        | .ok taken => .ok ⟨.record taken.value, taken.rest, by
            have := taken.shorter
            simp only [opened, List.length_cons] at *
            omega⟩
  | text => atom text
termination_by 2 * text.length
decreasing_by
  all_goals
    simp only [opened, List.length_cons] at *
    omega

/-- Reads the items of an array up to its closing bracket. -/
def items (depth : Nat) (text : Text) : Except Stop (Taken (List Datum) text) :=
  match value depth text with
  | .error stop => .error stop
  | .ok first =>
    have := first.shorter
    have := skipSpace_length_le first.rest
    match ended : skipSpace first.rest with
    | .scalar ']' :: after => .ok ⟨[first.value], after, by
        simp only [ended, List.length_cons] at *
        omega⟩
    | .scalar ',' :: after =>
      have := skipSpace_length_le after
      match items depth (skipSpace after) with
      | .error stop => .error stop
      | .ok others => .ok ⟨first.value :: others.value, others.rest, by
          have := others.shorter
          simp only [ended, List.length_cons] at *
          omega⟩
    | other => .error (.malformed .missingComma other.length)
termination_by 2 * text.length + 1
decreasing_by
  · omega
  · simp only [ended, List.length_cons] at *
    omega

/-- Reads the fields of an object up to its closing brace, after those already read. -/
def fields (depth : Nat) (read : Fields) (text : Text) : Except Stop (Taken Fields text) :=
  match text with
  | .scalar '"' :: rest =>
    match named : stringBody (.scalar '"' :: rest) [] rest with
    | .error stop => .error stop
    | .ok (name, afterName) =>
      have := stringBody_shorter named
      have := skipSpace_length_le afterName
      match separated : skipSpace afterName with
      | .scalar ':' :: afterColon =>
        have := skipSpace_length_le afterColon
        match value depth (skipSpace afterColon) with
        | .error stop => .error stop
        | .ok content =>
          have := content.shorter
          have := skipSpace_length_le content.rest
          let read := read.put name content.value
          match ended : skipSpace content.rest with
          | .scalar '\x7d' :: after => .ok ⟨read, after, by
              simp only [ended, separated, List.length_cons] at *
              omega⟩
          | .scalar ',' :: after =>
            have := skipSpace_length_le after
            match fields depth read (skipSpace after) with
            | .error stop => .error stop
            | .ok others => .ok ⟨others.value, others.rest, by
                have := others.shorter
                simp only [ended, separated, List.length_cons] at *
                omega⟩
          | other => .error (.malformed .missingComma other.length)
      | other => .error (.malformed .missingColon other.length)
  | other => .error (.malformed .missingName other.length)
termination_by 2 * text.length + 1
decreasing_by
  · simp only [separated, List.length_cons] at *
    omega
  · simp only [ended, separated, List.length_cons] at *
    omega

end

/-- Reads a whole text as one value with white space around it. -/
def document (depth : Nat) (text : Text) : Except Stop Datum :=
  match text with
  | .scalar '\uFEFF' :: _ => .error (.malformed .byteOrderMark text.length)
  | _ =>
    match value depth (skipSpace text) with
    | .error stop => .error stop
    | .ok taken =>
      match skipSpace taken.rest with
      | [] => .ok taken.value
      | extra => .error (.malformed .extraData extra.length)

/-- The fault of a stop in a text. -/
def Stop.fault (text : Text) : Stop → Fault
  | .malformed reason left => .malformed reason (.after text (text.length - left))
  | .numberTooLong digits => .numberTooLong digits
  | .tooDeep => .tooDeep

/-- Reads a JSON text. -/
def read [Host] (text : Text) : Except Fault Datum :=
  (document Host.jsonDepth text).mapError (Stop.fault text)

end Phrasebook.Json
