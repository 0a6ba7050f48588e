import Mathlib.Tactic.SplitIfs
import Phrasebook.Text.Utf8

/-!
# Decoding what was encoded

The bytes of a text without surrogates decode to the text. The bytes of each scalar value take the
decoder from one boundary between sequences to the next, so that a text can be told from its bytes.
-/

namespace Phrasebook

namespace CodePoint

theorem ofNat?_value (point : CodePoint) : ofNat? point.value = some point := by
  cases point with
  | surrogate offset =>
    have high : 0xD800 ≤ (surrogate offset).value ∧ (surrogate offset).value < 0xE000 := by
      have := offset.isLt
      simp only [value]
      omega
    rw [ofNat?, dif_pos high]
    simp [value]
  | scalar char =>
    have valid : (scalar char).value.isValidChar := char.valid
    have apart : ¬(0xD800 ≤ (scalar char).value ∧ (scalar char).value < 0xE000) := by
      unfold Nat.isValidChar at valid
      omega
    rw [ofNat?, dif_neg apart, dif_pos valid]
    rfl

theorem value_of_ofNat? {number : Nat} {point : CodePoint} (made : ofNat? number = some point) :
    point.value = number := by
  by_cases high : 0xD800 ≤ number ∧ number < 0xE000
  · rw [ofNat?, dif_pos high] at made
    cases made
    simp only [value]
    omega
  · rw [ofNat?, dif_neg high] at made
    by_cases valid : number.isValidChar
    · rw [dif_pos valid] at made
      cases made
      rfl
    · rw [dif_neg valid] at made
      cases made

theorem ofNat?_eq_none {number : Nat} : ofNat? number = none ↔ 0x110000 ≤ number := by
  unfold ofNat?
  by_cases surrogate : 0xD800 ≤ number ∧ number < 0xE000
  · rw [dif_pos surrogate]
    exact iff_of_false (Option.some_ne_none _) (by omega)
  · rw [dif_neg surrogate]
    by_cases valid : number.isValidChar
    · rw [dif_pos valid]
      refine iff_of_false (Option.some_ne_none _) ?_
      rcases valid with low | ⟨_, high⟩ <;> omega
    · rw [dif_neg valid]
      refine iff_of_true rfl ?_
      simp only [Nat.isValidChar] at valid
      omega

theorem value_inj {first second : CodePoint} : first.value = second.value ↔ first = second := by
  constructor
  · intro same
    have found := ofNat?_value first
    rw [same, ofNat?_value] at found
    exact (Option.some.inj found).symm
  · rintro rfl
    rfl

end CodePoint

namespace Text

@[simp]
theorem isEncodable_nil : isEncodable [] := rfl

@[simp]
theorem isEncodable_cons {point : CodePoint} {rest : Text} :
    isEncodable (point :: rest) ↔ point.isSurrogate = false ∧ isEncodable rest := by
  simp [isEncodable]

@[simp]
theorem isEncodable_append {first second : Text} :
    isEncodable (first ++ second) ↔ isEncodable first ∧ isEncodable second := by
  simp [isEncodable]

theorem isEncodable_flatMap {α : Type} {write : α → Text} {values : List α}
    (each : ∀ value ∈ values, (write value).isEncodable) : isEncodable (values.flatMap write) := by
  induction values with
  | nil => rfl
  | cons value rest ih =>
    rw [List.forall_mem_cons] at each
    rw [List.flatMap_cons, isEncodable_append]
    exact ⟨each.1, ih each.2⟩

end Text

namespace Utf8

theorem firstSurrogate?_eq_none {text : Text} : firstSurrogate? text = none ↔ text.isEncodable := by
  simp [firstSurrogate?, Text.isEncodable]

/-- A text without surrogates can be encoded. -/
theorem encode?_of_isEncodable {text : Text} (encodable : text.isEncodable) :
    encode? text = .ok (encode text) := by
  rw [encode?, firstSurrogate?_eq_none.mpr encodable]

theorem encode?_eq_ok {text : Text} {content : Bytes} :
    encode? text = .ok content ↔ text.isEncodable ∧ encode text = content := by
  rw [encode?, ← firstSurrogate?_eq_none]
  split <;> simp_all

/-- The decoder between two sequences. -/
def State.between (read : Text) (start : Nat) : State := { read, start }

/-- The decoder within a sequence. -/
def State.within (read : Text) (start : Nat) (lead : UInt8) (count number : Nat)
    (owed : List (Nat × Nat)) : State :=
  { read, start, open? := some (lead, count), number, owed }

variable {read : Text} {start count number : Nat} {lead byte : UInt8} {range : Nat × Nat}

/-! ### Steps -/

theorem step_single {point : CodePoint} (found : sequence? byte = some (point.value, [])) :
    (State.between read start).step byte = .ok (.between (point :: read) (start + 1)) := by
  simp [State.step, State.between, found, State.emit, CodePoint.ofNat?_value]

theorem step_lead {owed : List (Nat × Nat)} (found : sequence? lead = some (number, range :: owed)) :
    (State.between read start).step lead = .ok (.within read start lead 1 number (range :: owed)) := by
  simp [State.step, State.between, State.within, found]

theorem step_next {next : Nat × Nat} {owed : List (Nat × Nat)}
    (fits : range.1 ≤ byte.toNat ∧ byte.toNat ≤ range.2) :
    (State.within read start lead count number (range :: next :: owed)).step byte =
      .ok (.within read start lead (count + 1) (number * 64 + byte.toNat % 64) (next :: owed)) := by
  simp [State.step, State.within, fits]

theorem step_last {point : CodePoint} (fits : range.1 ≤ byte.toNat ∧ byte.toNat ≤ range.2)
    (complete : number * 64 + byte.toNat % 64 = point.value) :
    (State.within read start lead count number [range]).step byte =
      .ok (.between (point :: read) (start + (count + 1))) := by
  simp [State.step, State.within, State.between, fits, State.emit, complete,
    CodePoint.ofNat?_value]

/-! ### Sequences -/

section Sequences

variable {point : CodePoint} {first second third fourth : UInt8} {next last : Nat × Nat}

theorem read_two (found : sequence? first = some (number, [last]))
    (fits : last.1 ≤ second.toNat ∧ second.toNat ≤ last.2)
    (complete : number * 64 + second.toNat % 64 = point.value) :
    [first, second].foldlM State.step (.between read start) =
      .ok (.between (point :: read) (start + 2)) := by
  simp only [List.foldlM_cons, List.foldlM_nil, step_lead found, bind, Except.bind,
    step_last fits complete]
  rfl

theorem read_three (found : sequence? first = some (number, [next, last]))
    (fitsSecond : next.1 ≤ second.toNat ∧ second.toNat ≤ next.2)
    (fitsThird : last.1 ≤ third.toNat ∧ third.toNat ≤ last.2)
    (complete : (number * 64 + second.toNat % 64) * 64 + third.toNat % 64 = point.value) :
    [first, second, third].foldlM State.step (.between read start) =
      .ok (.between (point :: read) (start + 3)) := by
  simp only [List.foldlM_cons, List.foldlM_nil, step_lead found, bind, Except.bind,
    step_next fitsSecond, step_last fitsThird complete]
  rfl

theorem read_four (found : sequence? first = some (number, [next, range, last]))
    (fitsSecond : next.1 ≤ second.toNat ∧ second.toNat ≤ next.2)
    (fitsThird : range.1 ≤ third.toNat ∧ third.toNat ≤ range.2)
    (fitsFourth : last.1 ≤ fourth.toNat ∧ fourth.toNat ≤ last.2)
    (complete : ((number * 64 + second.toNat % 64) * 64 + third.toNat % 64) * 64 +
      fourth.toNat % 64 = point.value) :
    [first, second, third, fourth].foldlM State.step (.between read start) =
      .ok (.between (point :: read) (start + 4)) := by
  simp only [List.foldlM_cons, List.foldlM_nil, step_lead found, bind, Except.bind,
    step_next fitsSecond, step_next fitsThird, step_last fitsFourth complete]
  rfl

end Sequences

/-! ### Lead bytes -/

theorem toNat_toUInt8 {value : Nat} (small : value < 256) : value.toUInt8.toNat = value :=
  UInt8.toNat_ofNat_of_lt small

theorem sequence?_two {value : Nat} (long : 0x80 ≤ value) (short : value < 0x800) :
    sequence? (0xC0 + value / 64).toUInt8 = some (value / 64, [(0x80, 0xBF)]) := by
  have lead : (0xC0 + value / 64).toUInt8.toNat = 0xC0 + value / 64 := toNat_toUInt8 (by omega)
  simp only [sequence?, lead]
  rw [if_neg (by omega), if_neg (by omega), if_pos (by omega), Nat.add_sub_cancel_left]

/-- The lead byte of a sequence of three, and the range of the second byte: the least numbers would be
too long that way, and surrogates are left out. -/
theorem sequence?_three {value : Nat} (valid : value.isValidChar) (long : 0x800 ≤ value)
    (short : value < 0x10000) :
    ∃ range : Nat × Nat,
      sequence? (0xE0 + value / 4096).toUInt8 = some (value / 4096, [range, (0x80, 0xBF)]) ∧
        range.1 ≤ 0x80 + value / 64 % 64 ∧ 0x80 + value / 64 % 64 ≤ range.2 := by
  unfold Nat.isValidChar at valid
  by_cases least : value / 4096 = 0
  · refine ⟨(0xA0, 0xBF), by simp [sequence?, least], ?_⟩
    dsimp only
    omega
  · by_cases around : value / 4096 = 13
    · refine ⟨(0x80, 0x9F), by simp [sequence?, around], ?_⟩
      dsimp only
      omega
    · have lead : (0xE0 + value / 4096).toUInt8.toNat = 0xE0 + value / 4096 :=
        toNat_toUInt8 (by omega)
      refine ⟨(0x80, 0xBF), ?_, ?_⟩
      · simp only [sequence?, lead]
        rw [if_neg (by omega), if_neg (by omega), if_neg (by omega), if_neg (by omega),
          if_neg (by omega), if_pos (by omega), Nat.add_sub_cancel_left]
      · dsimp only
        omega

/-- The lead byte of a sequence of four, and the range of the second byte: the least numbers would be
too long that way, and the greatest ones are no code points. -/
theorem sequence?_four {value : Nat} (valid : value.isValidChar) (long : 0x10000 ≤ value) :
    ∃ range : Nat × Nat,
      sequence? (0xF0 + value / 262144).toUInt8 =
          some (value / 262144, [range, (0x80, 0xBF), (0x80, 0xBF)]) ∧
        range.1 ≤ 0x80 + value / 4096 % 64 ∧ 0x80 + value / 4096 % 64 ≤ range.2 := by
  unfold Nat.isValidChar at valid
  by_cases least : value / 262144 = 0
  · refine ⟨(0x90, 0xBF), by simp [sequence?, least], ?_⟩
    dsimp only
    omega
  · by_cases greatest : value / 262144 = 4
    · refine ⟨(0x80, 0x8F), by simp [sequence?, greatest], ?_⟩
      dsimp only
      omega
    · have lead : (0xF0 + value / 262144).toUInt8.toNat = 0xF0 + value / 262144 :=
        toNat_toUInt8 (by omega)
      refine ⟨(0x80, 0xBF), ?_, ?_⟩
      · simp only [sequence?, lead]
        rw [if_neg (by omega), if_neg (by omega), if_neg (by omega), if_neg (by omega),
          if_neg (by omega), if_neg (by omega), if_neg (by omega), if_pos (by omega),
          Nat.add_sub_cancel_left]
      · dsimp only
        omega

/-! ### Texts -/

theorem encode_append (first second : Text) : encode (first ++ second) = encode first ++ encode second :=
  List.flatMap_append

/-- A code point has four bytes at most. -/
theorem length_encode_le (text : Text) : (encode text).length ≤ 4 * text.length := by
  induction text with
  | nil => exact Nat.le_refl 0
  | cons point rest ih =>
    have opened : encode (point :: rest) = encode [point] ++ encode rest := encode_append [point] rest
    have few : (encode [point]).length ≤ 4 := by
      cases point with
      | surrogate => exact Nat.zero_le 4
      | scalar char =>
        simp only [encode, List.flatMap_cons, List.flatMap_nil, List.append_nil, encodeChar]
        split_ifs <;> simp
    rw [opened, List.length_append, List.length_cons]
    omega

/-- The bytes of a character take the decoder from one boundary to the next. -/
theorem decode_encodeChar (read : Text) (start : Nat) (char : Char) :
    (encodeChar char).foldlM State.step (.between read start) =
      .ok (.between (.scalar char :: read) (start + (encodeChar char).length)) := by
  have valid : char.toNat.isValidChar := char.valid
  have same : (CodePoint.scalar char).value = char.toNat := rfl
  have continued (bits : Nat) : (0x80 + bits % 64).toUInt8.toNat = 0x80 + bits % 64 :=
    toNat_toUInt8 (by omega)
  simp only [encodeChar, Nat.pow_eq, Nat.pow_zero, Nat.div_one]
  split_ifs with one two three
  · have found : sequence? char.toNat.toUInt8 = some ((CodePoint.scalar char).value, []) := by
      simp [sequence?, toNat_toUInt8 (show char.toNat < 256 by omega), one, same]
    simp only [List.foldlM_cons, List.foldlM_nil, step_single found, bind, Except.bind]
    rfl
  · apply read_two (sequence?_two (by omega) two)
    · rw [continued]
      dsimp only
      omega
    · rw [continued, same]
      omega
  · rcases sequence?_three valid (by omega) three with ⟨range, found, fits⟩
    apply read_three found
    · rwa [continued]
    · rw [continued]
      dsimp only
      omega
    · rw [continued, continued, same]
      omega
  · rcases sequence?_four valid (by omega) with ⟨range, found, fits⟩
    apply read_four found
    · rwa [continued]
    · rw [continued]
      dsimp only
      omega
    · rw [continued]
      dsimp only
      omega
    · rw [continued, continued, continued, same]
      omega

theorem decode_encode_between (read : Text) (start : Nat) {text : Text}
    (encodable : text.isEncodable) :
    (encode text).foldlM State.step (.between read start) =
      .ok (.between (text.reverse ++ read) (start + (encode text).length)) := by
  induction text generalizing read start with
  | nil => rfl
  | cons point rest ih =>
    cases point with
    | surrogate => simp [CodePoint.isSurrogate] at encodable
    | scalar char =>
      have later := (Text.isEncodable_cons.mp encodable).2
      have opened : encode (.scalar char :: rest) = encodeChar char ++ encode rest := rfl
      rw [opened, List.foldlM_append, decode_encodeChar]
      simp only [bind, Except.bind, ih _ _ later, List.length_append, List.reverse_cons,
        List.append_assoc, List.singleton_append, Nat.add_assoc]

/-- A decoder does not forget what it has read. -/
theorem State.read_suffix_of_step {before after : State} (stepped : before.step byte = .ok after) :
    before.read <:+ after.read := by
  have emitted (number width : Nat) : before.read <:+ (before.emit number width).read := by
    rw [State.emit]
    split
    · exact List.suffix_cons _ _
    · exact List.suffix_refl _
  unfold State.step at stepped
  split at stepped
  · split at stepped
    · dsimp only at stepped
      split at stepped <;> cases stepped
      · exact emitted _ _
      · exact List.suffix_refl _
    · cases stepped
  · split at stepped <;> cases stepped
    · exact emitted _ _
    · exact List.suffix_refl _

/-- The bytes of a text without surrogates decode to the text. -/
theorem decode_encode {text : Text} (encodable : text.isEncodable) :
    decode (encode text) = .ok text := by
  have run : (encode text).foldlM State.step {} = _ := decode_encode_between [] 0 encodable
  rw [decode, run]
  simp [bind, Except.bind, State.finish, State.between]

/-- Texts without surrogates are told apart by their bytes. -/
theorem encode_inj {first second : Text} (encodableFirst : first.isEncodable)
    (encodableSecond : second.isEncodable) : encode first = encode second ↔ first = second := by
  constructor
  · intro same
    have decoded := decode_encode encodableFirst
    rw [same, decode_encode encodableSecond] at decoded
    exact (Except.ok.inj decoded).symm
  · rintro rfl
    rfl

end Utf8

end Phrasebook
