import Phrasebook.Text.Basic

/-!
# UTF-8

Encoding turns each scalar value into one to four bytes; surrogates have no encoding. Decoding works
from the lead byte of a sequence, which fixes how many bytes follow and in which range each of them
lies. The ranges leave out overlong forms, surrogates and numbers past the last code point, so a
fault is reported at the first byte that rules the sequence out.
-/

namespace Phrasebook.Utf8

/-- A sequence of bytes. -/
abbrev Bytes := List UInt8

/-- The bytes of one scalar value. -/
def encodeChar (char : Char) : Bytes :=
  let number := char.toNat
  let continuation (shift : Nat) : UInt8 := (0x80 + number / Nat.pow 2 shift % 64).toUInt8
  if number < 0x80 then [number.toUInt8]
  else if number < 0x800 then [(0xC0 + number / 64).toUInt8, continuation 0]
  else if number < 0x10000 then
    [(0xE0 + number / 4096).toUInt8, continuation 6, continuation 0]
  else [(0xF0 + number / 262144).toUInt8, continuation 12, continuation 6, continuation 0]

/-- The position of the first surrogate of a text. -/
def firstSurrogate? (text : Text) : Option Nat :=
  text.findIdx? CodePoint.isSurrogate

/-- The encoding of the scalar values of a text. It is the encoding of the text if there are no
surrogates among them. -/
def encode (text : Text) : Bytes :=
  text.flatMap fun
    | .scalar char => encodeChar char
    | .surrogate _ => []

/-- The encoding of a text, or the position of its first surrogate. -/
def encode? (text : Text) : Except Nat Bytes :=
  match firstSurrogate? text with
  | some position => .error position
  | none => .ok (encode text)

/-- What is wrong with a byte sequence. -/
inductive Reason where
  | invalidStart
  | invalidContinuation
  | unexpectedEnd
deriving DecidableEq, Repr

/-- A place where bytes are not UTF-8: the position of a sequence and the number of its bytes up to
the one that rules it out. -/
structure Fault where
  position : Nat
  length : Nat
  first : UInt8
  reason : Reason
deriving DecidableEq, Repr

/-- The ranges of the bytes that follow a lead byte, with the number that the lead byte gives; none
for a byte that starts no sequence. -/
def sequence? (lead : UInt8) : Option (Nat × List (Nat × Nat)) :=
  let byte := lead.toNat
  if byte < 0x80 then some (byte, [])
  else if byte < 0xC2 then none
  else if byte < 0xE0 then some (byte - 0xC0, [(0x80, 0xBF)])
  else if byte = 0xE0 then some (0, [(0xA0, 0xBF), (0x80, 0xBF)])
  else if byte = 0xED then some (0xD, [(0x80, 0x9F), (0x80, 0xBF)])
  else if byte < 0xF0 then some (byte - 0xE0, [(0x80, 0xBF), (0x80, 0xBF)])
  else if byte = 0xF0 then some (0, [(0x90, 0xBF), (0x80, 0xBF), (0x80, 0xBF)])
  else if byte < 0xF4 then some (byte - 0xF0, [(0x80, 0xBF), (0x80, 0xBF), (0x80, 0xBF)])
  else if byte = 0xF4 then some (4, [(0x80, 0x8F), (0x80, 0xBF), (0x80, 0xBF)])
  else none

/-- Where the reading of a byte sequence stands. -/
structure State where
  /-- The code points read so far, last one first. -/
  read : Text := []
  /-- The position of the sequence being read. -/
  start : Nat := 0
  /-- The lead byte of that sequence and the number of its bytes already read. -/
  open? : Option (UInt8 × Nat) := none
  /-- The number built from the bytes of that sequence. -/
  number : Nat := 0
  /-- The ranges of the bytes that the sequence still needs. -/
  owed : List (Nat × Nat) := []

/-- The state after one more number is complete. -/
def State.emit (state : State) (number width : Nat) : State :=
  match CodePoint.ofNat? number with
  | some point => { read := point :: state.read, start := state.start + width }
  | none => { read := state.read, start := state.start + width }

/-- Reads one byte. -/
def State.step (state : State) (byte : UInt8) : Except Fault State :=
  match state.open?, state.owed with
  | some (lead, count), range :: owed =>
    if range.1 ≤ byte.toNat ∧ byte.toNat ≤ range.2 then
      let number := state.number * 64 + byte.toNat % 64
      if owed.isEmpty then .ok (state.emit number (count + 1))
      else .ok { state with open? := some (lead, count + 1), number, owed }
    else .error ⟨state.start, count, lead, .invalidContinuation⟩
  | _, _ =>
    match sequence? byte with
    | none => .error ⟨state.start, 1, byte, .invalidStart⟩
    | some (number, []) => .ok (state.emit number 1)
    | some (number, owed) => .ok { state with open? := some (byte, 1), number, owed }

/-- The text of the bytes read, if no sequence is left open. -/
def State.finish (state : State) : Except Fault Text :=
  match state.open? with
  | none => .ok state.read.reverse
  | some (lead, count) => .error ⟨state.start, count, lead, .unexpectedEnd⟩

/-- Reads bytes as UTF-8. -/
def decode (bytes : Bytes) : Except Fault Text := do
  (← bytes.foldlM State.step {}).finish

/-- The byte order mark as UTF-8. -/
def byteOrderMark : Bytes := [0xEF, 0xBB, 0xBF]

/-- Reads bytes as UTF-8 after dropping one leading byte order mark; positions count from there. -/
def decodeAfterMark (bytes : Bytes) : Except Fault Text :=
  decode (if byteOrderMark.isPrefixOf bytes then bytes.drop 3 else bytes)

end Phrasebook.Utf8
