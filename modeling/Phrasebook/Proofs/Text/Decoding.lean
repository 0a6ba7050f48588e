import Mathlib.Data.List.Forall2
import Phrasebook.Proofs.Text.Utf8

/-!
# What decodes is an encoding

Bytes that decode are the encoding of the text that they decode to, and this text has no surrogates. So the
decoder refuses exactly the bytes that encode no text. What it has taken at any time is the encoding of the code
points that it has read, and after it the first bytes of one more sequence.
-/

namespace Phrasebook.Utf8

/-! ### Sequences -/

/-- Bytes that lie in the ranges that a lead byte leaves for them. -/
abbrev Fits (bytes : Bytes) (ranges : List (Nat × Nat)) : Prop :=
  List.Forall₂ (fun byte range => range.1 ≤ byte.toNat ∧ byte.toNat ≤ range.2) bytes ranges

/-- The number of a sequence, from that of its lead byte and the bytes that follow. -/
def gather (number : Nat) (bytes : Bytes) : Nat :=
  bytes.foldl (fun number byte => number * 64 + byte.toNat % 64) number

theorem gather_append_singleton (number : Nat) (bytes : Bytes) (byte : UInt8) :
    gather number (bytes ++ [byte]) = gather number bytes * 64 + byte.toNat % 64 := by
  simp [gather]

theorem toUInt8_eq {value : Nat} {byte : UInt8} (same : value = byte.toNat) : value.toUInt8 = byte := by
  rw [same]
  exact UInt8.ofNat_toNat

section Characters

variable {char : Char}

/-- Characters are encoded as the standard library encodes them. -/
theorem encodeChar_eq_utf8EncodeChar (char : Char) : encodeChar char = String.utf8EncodeChar char := by
  have bounded : char.val.toNat < 0x110000 := by
    rcases char.valid with low | ⟨_, high⟩
    · exact Nat.lt_trans low (by decide)
    · exact high
  simp only [encodeChar, String.utf8EncodeChar, Char.toNat, Nat.pow_eq, Nat.pow_zero, Nat.div_one]
  split_ifs <;> try omega
  · rfl
  · rw [Nat.mod_eq_of_lt (show char.val.toNat / 64 < 32 by omega), Nat.add_comm 0xC0, Nat.add_comm 0x80]
  · rw [Nat.mod_eq_of_lt (show char.val.toNat / 4096 < 16 by omega), Nat.add_comm 0xE0]
    simp only [Nat.add_comm 0x80]
  · rw [Nat.mod_eq_of_lt (show char.val.toNat / 262144 < 8 by omega), Nat.add_comm 0xF0]
    simp only [Nat.add_comm 0x80]

theorem exists_scalar (value : Nat) (valid : value.isValidChar) :
    ∃ char : Char, CodePoint.ofNat? value = some (.scalar char) ∧ char.toNat = value := by
  have apart : ¬(0xD800 ≤ value ∧ value < 0xE000) := by
    unfold Nat.isValidChar at valid
    omega
  refine ⟨Char.ofNatAux value valid, ?_, rfl⟩
  rw [CodePoint.ofNat?, dif_neg apart, dif_pos valid]

theorem encodeChar_one (short : char.toNat < 0x80) : encodeChar char = [char.toNat.toUInt8] := by
  rw [encodeChar, if_pos short]

theorem encodeChar_two (long : 0x80 ≤ char.toNat) (short : char.toNat < 0x800) :
    encodeChar char = [(0xC0 + char.toNat / 64).toUInt8, (0x80 + char.toNat % 64).toUInt8] := by
  simp [encodeChar, Nat.not_lt.mpr long, short]

theorem encodeChar_three (long : 0x800 ≤ char.toNat) (short : char.toNat < 0x10000) :
    encodeChar char =
      [(0xE0 + char.toNat / 4096).toUInt8, (0x80 + char.toNat / 64 % 64).toUInt8,
        (0x80 + char.toNat % 64).toUInt8] := by
  have longer : ¬char.toNat < 0x80 := by omega
  simp [encodeChar, longer, Nat.not_lt.mpr long, short]

theorem encodeChar_four (long : 0x10000 ≤ char.toNat) :
    encodeChar char =
      [(0xF0 + char.toNat / 262144).toUInt8, (0x80 + char.toNat / 4096 % 64).toUInt8,
        (0x80 + char.toNat / 64 % 64).toUInt8, (0x80 + char.toNat % 64).toUInt8] := by
  have longest : ¬char.toNat < 0x80 ∧ ¬char.toNat < 0x800 := by omega
  simp [encodeChar, longest, Nat.not_lt.mpr long]

end Characters

/-- The sequences that a lead byte starts, by their number of bytes. The range of the second byte leaves out
overlong forms, surrogates and numbers past the last code point. -/
inductive Starts (lead : UInt8) : Nat → List (Nat × Nat) → Prop
  | one (short : lead.toNat < 0x80) : Starts lead lead.toNat []
  | two (least : 0xC2 ≤ lead.toNat) (greatest : lead.toNat < 0xE0) :
      Starts lead (lead.toNat - 0xC0) [(0x80, 0xBF)]
  | three {range : Nat × Nat} (least : 0xE0 ≤ lead.toNat) (greatest : lead.toNat < 0xF0)
      (following : 0x80 ≤ range.1 ∧ range.2 ≤ 0xBF) (minimal : lead.toNat = 0xE0 → 0xA0 ≤ range.1)
      (apart : lead.toNat = 0xED → range.2 ≤ 0x9F) : Starts lead (lead.toNat - 0xE0) [range, (0x80, 0xBF)]
  | four {range : Nat × Nat} (least : 0xF0 ≤ lead.toNat) (greatest : lead.toNat ≤ 0xF4)
      (following : 0x80 ≤ range.1 ∧ range.2 ≤ 0xBF) (minimal : lead.toNat = 0xF0 → 0x90 ≤ range.1)
      (bounded : lead.toNat = 0xF4 → range.2 ≤ 0x8F) :
      Starts lead (lead.toNat - 0xF0) [range, (0x80, 0xBF), (0x80, 0xBF)]

theorem starts_of_sequence? {lead : UInt8} {number : Nat} {ranges : List (Nat × Nat)}
    (found : sequence? lead = some (number, ranges)) : Starts lead number ranges := by
  simp only [sequence?] at found
  split_ifs at found with ascii continuation two least surrogates three lowest four highest <;>
    simp only [Option.some.injEq, Prod.mk.injEq] at found <;> obtain ⟨rfl, rfl⟩ := found
  · exact .one ascii
  · exact .two (by omega) two
  · rw [show 0 = lead.toNat - 0xE0 by omega]
    exact .three (by omega) (by omega) (by omega) (by omega) (by omega)
  · rw [show 0xD = lead.toNat - 0xE0 by omega]
    exact .three (by omega) (by omega) (by omega) (by omega) (by omega)
  · exact .three (by omega) three (by omega) (by omega) (by omega)
  · rw [show 0 = lead.toNat - 0xF0 by omega]
    exact .four (by omega) (by omega) (by omega) (by omega) (by omega)
  · exact .four (by omega) (by omega) (by omega) (by omega) (by omega)
  · rw [show 4 = lead.toNat - 0xF0 by omega]
    exact .four (by omega) (by omega) (by omega) (by omega) (by omega)

/-- The bytes of a complete sequence are those of the character with its number. -/
theorem exists_encodeChar {lead : UInt8} {number : Nat} {ranges : List (Nat × Nat)} {bytes : Bytes}
    (starts : Starts lead number ranges) (fits : Fits bytes ranges) :
    ∃ char, CodePoint.ofNat? (gather number bytes) = some (.scalar char) ∧ encodeChar char = lead :: bytes := by
  cases starts with
  | one short =>
    cases fits
    rcases exists_scalar lead.toNat (Or.inl (by omega)) with ⟨char, made, same⟩
    refine ⟨char, made, ?_⟩
    rw [encodeChar_one (by omega), same, toUInt8_eq rfl]
  | two least greatest =>
    rcases fits with _ | ⟨secondFits, _ | _⟩
    rename_i second
    dsimp only at secondFits
    have value : gather (lead.toNat - 0xC0) [second] = (lead.toNat - 0xC0) * 64 + second.toNat % 64 := rfl
    rcases exists_scalar (gather (lead.toNat - 0xC0) [second]) (Or.inl (by omega)) with ⟨char, made, same⟩
    refine ⟨char, made, ?_⟩
    rw [encodeChar_two (by omega) (by omega), List.cons.injEq, List.cons.injEq]
    refine ⟨toUInt8_eq ?_, toUInt8_eq ?_, rfl⟩ <;> omega
  | three least greatest following minimal apart =>
    rcases fits with _ | ⟨secondFits, _ | ⟨thirdFits, _ | _⟩⟩
    rename_i second third
    dsimp only at thirdFits
    have value : gather (lead.toNat - 0xE0) [second, third] =
        ((lead.toNat - 0xE0) * 64 + second.toNat % 64) * 64 + third.toNat % 64 := rfl
    have valid : (gather (lead.toNat - 0xE0) [second, third]).isValidChar := by
      unfold Nat.isValidChar
      omega
    rcases exists_scalar _ valid with ⟨char, made, same⟩
    refine ⟨char, made, ?_⟩
    rw [encodeChar_three (by omega) (by omega), List.cons.injEq, List.cons.injEq, List.cons.injEq]
    refine ⟨toUInt8_eq ?_, toUInt8_eq ?_, toUInt8_eq ?_, rfl⟩ <;> omega
  | four least greatest following minimal bounded =>
    rcases fits with _ | ⟨secondFits, _ | ⟨thirdFits, _ | ⟨fourthFits, _ | _⟩⟩⟩
    rename_i second third fourth
    dsimp only at thirdFits fourthFits
    have value : gather (lead.toNat - 0xF0) [second, third, fourth] =
        (((lead.toNat - 0xF0) * 64 + second.toNat % 64) * 64 + third.toNat % 64) * 64 + fourth.toNat % 64 := rfl
    have valid : (gather (lead.toNat - 0xF0) [second, third, fourth]).isValidChar := by
      unfold Nat.isValidChar
      omega
    rcases exists_scalar _ valid with ⟨char, made, same⟩
    refine ⟨char, made, ?_⟩
    rw [encodeChar_four (by omega), List.cons.injEq, List.cons.injEq, List.cons.injEq, List.cons.injEq]
    refine ⟨toUInt8_eq ?_, toUInt8_eq ?_, toUInt8_eq ?_, toUInt8_eq ?_, rfl⟩ <;> omega

/-! ### Steps -/

/-- The decoder has taken some bytes: those of the code points that it has read, and those of the sequence that
it is within. -/
inductive State.Took : State → Bytes → Prop
  | between {read : Text} {start : Nat} (encodable : read.isEncodable) :
      Took (.between read start) (encode read.reverse)
  | within {read : Text} {start count number : Nat} {lead : UInt8} {taken owed : List (Nat × Nat)} {bytes : Bytes}
      (encodable : read.isEncodable) (starts : Starts lead number (taken ++ owed)) (fits : Fits bytes taken)
      (pending : owed ≠ []) :
      Took (.within read start lead count (gather number bytes) owed) (encode read.reverse ++ lead :: bytes)

/-- A complete sequence adds its character to the code points that have been read. -/
theorem State.Took.emit {read : Text} {start count width : Nat} {open? : Option (UInt8 × Nat)}
    {owed ranges : List (Nat × Nat)} {lead : UInt8} {first : Nat} {bytes : Bytes} (encodable : read.isEncodable)
    (starts : Starts lead first ranges) (fits : Fits bytes ranges) :
    Took (State.emit { read, start, open?, number := count, owed } (gather first bytes) width)
      (encode read.reverse ++ lead :: bytes) := by
  rcases exists_encodeChar starts fits with ⟨char, made, encoded⟩
  have added : encode (CodePoint.scalar char :: read).reverse = encode read.reverse ++ lead :: bytes := by
    rw [List.reverse_cons, encode_append, ← encoded]
    exact congrArg (encode read.reverse ++ ·) (List.append_nil _)
  rw [State.emit, made, ← added]
  exact .between (Text.isEncodable_cons.mpr ⟨rfl, encodable⟩)

theorem State.Took.step {state after : State} {bytes : Bytes} {byte : UInt8} (took : state.Took bytes)
    (stepped : state.step byte = .ok after) : after.Took (bytes ++ [byte]) := by
  cases took with
  | between encodable =>
    simp only [State.step, State.between] at stepped
    split at stepped
    · cases stepped
    · rename_i number found
      cases stepped
      exact .emit encodable (starts_of_sequence? found) .nil
    · rename_i number owed pending found
      cases stepped
      have starts : Starts byte number ([] ++ owed) := starts_of_sequence? found
      exact .within encodable starts .nil (by rintro rfl; exact pending rfl)
  | @within read start count number lead taken owed tail encodable starts fits pending =>
    cases owed with
    | nil => exact absurd rfl pending
    | cons range owed =>
      simp only [State.step, State.within] at stepped
      split at stepped
      · rename_i inRange
        have split : taken ++ range :: owed = (taken ++ [range]) ++ owed := by simp
        have fitsNext : Fits (tail ++ [byte]) (taken ++ [range]) := List.rel_append fits (.cons inRange .nil)
        rw [List.append_assoc, List.cons_append]
        rw [split] at starts
        rw [← gather_append_singleton] at stepped
        split at stepped
        · rename_i complete
          cases stepped
          rw [List.isEmpty_iff.mp complete, List.append_nil] at starts
          exact .emit encodable starts fitsNext
        · rename_i incomplete
          cases stepped
          exact .within encodable starts fitsNext (by simpa using incomplete)
      · cases stepped

theorem State.Took.foldlM {state after : State} {bytes more : Bytes} (took : state.Took bytes)
    (ran : more.foldlM State.step state = .ok after) : after.Took (bytes ++ more) := by
  induction more generalizing state bytes with
  | nil =>
    cases ran
    rwa [List.append_nil]
  | cons byte rest ih =>
    rw [List.foldlM_cons] at ran
    cases stepped : state.step byte with
    | error fault =>
      rw [stepped] at ran
      cases ran
    | ok next =>
      rw [stepped] at ran
      have later := ih (took.step stepped) ran
      rwa [List.append_assoc] at later

/-! ### Texts -/

/-- Bytes decode to a text exactly if they are its encoding and it has no surrogates. -/
theorem decode_eq_ok {bytes : Bytes} {text : Text} :
    decode bytes = .ok text ↔ text.isEncodable ∧ encode text = bytes := by
  constructor
  · intro decoded
    rw [decode] at decoded
    cases ran : bytes.foldlM State.step {} with
    | error fault =>
      rw [ran] at decoded
      cases decoded
    | ok state =>
      rw [ran] at decoded
      have fresh : State.Took {} [] := .between Text.isEncodable_nil
      have took := fresh.foldlM ran
      rw [List.nil_append] at took
      cases took with
      | @between read _ encodable =>
        cases decoded
        refine ⟨?_, rfl⟩
        simpa [Text.isEncodable, State.between] using encodable
      | within => cases decoded
  · rintro ⟨encodable, rfl⟩
    exact decode_encode encodable

/-- Bytes that encode no text are refused. -/
theorem exists_decode_eq_error {bytes : Bytes} (invalid : ∀ text : Text, text.isEncodable → encode text ≠ bytes) :
    ∃ fault, decode bytes = .error fault := by
  cases decoded : decode bytes with
  | error fault => exact ⟨fault, rfl⟩
  | ok text =>
    rcases decode_eq_ok.mp decoded with ⟨encodable, same⟩
    exact absurd same (invalid text encodable)

end Phrasebook.Utf8
