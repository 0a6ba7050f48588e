import Phrasebook.Proofs.Template.Literal

/-!
# Templates one after another

What a reading has read earlier has no part in its next steps, so two templates that can be read on their own
can be read one after the other, and the texts that substitution makes of them stand one after the other, too.
A template that is put together from literals with doubled braces and from tokens with plain names therefore
becomes the literals and the values in their places. A value is never read as a template.
-/

namespace Phrasebook.Template

open Outcome

/-! ### Reading -/

section Reading

variable {reading : Reading} {earlier : List Piece}

/-- A reading that begins after other pieces. -/
def Reading.after (earlier : List Piece) (reading : Reading) : Reading :=
  { reading with pieces := reading.pieces ++ earlier }

theorem Reading.stepName_after (reading : Reading) (name : Text) (point : CodePoint) :
    (reading.after earlier).stepName name point =
      (reading.stepName name point).map (Reading.after earlier) := by
  unfold Reading.stepName
  split_ifs <;> rfl

theorem Reading.step_after (point : CodePoint) :
    (reading.after earlier).step point = (reading.step point).map (Reading.after earlier) := by
  rcases reading with ⟨pieces, mode⟩
  -- A step puts pieces on top of those that are there and looks at the mode alone.
  have named : ∀ mode name, Reading.stepName ⟨pieces ++ earlier, mode⟩ name point =
      (Reading.stepName ⟨pieces, mode⟩ name point).map (Reading.after earlier) := by
    intro mode name
    exact Reading.stepName_after ⟨pieces, mode⟩ name point
  cases mode with
  | text | closed | bracket | conversion =>
    simp only [Reading.step, Reading.after]
    split_ifs <;> rfl
  | mark => rfl
  | opened =>
    simp only [Reading.step, Reading.after]
    split_ifs
    · rfl
    · exact named .opened []
  | name name => exact named _ name
  | spec name conversion depth spec =>
    simp only [Reading.step, Reading.after]
    split_ifs
    · rfl
    · cases depth <;> rfl
    · rfl

/-- What has been read earlier stays beneath what is read next. -/
theorem Reading.foldlM_step_after (template : Text) :
    template.foldlM Reading.step (reading.after earlier) =
      (template.foldlM Reading.step reading).map (Reading.after earlier) := by
  induction template generalizing reading with
  | nil => rfl
  | cons point rest ih =>
    rw [List.foldlM_cons, List.foldlM_cons, Reading.step_after]
    cases reading.step point with
    | error fault => rfl
    | ok next => exact ih

end Reading

section Append

variable {first second : Text}

/-- A template can be read if its end is reached in literal text. -/
theorem pieces_eq_ok {template : Text} {read : List Piece} :
    pieces template = .ok read ↔
      template.foldlM Reading.step Reading.start = .ok ⟨read.reverse, .text⟩ := by
  rw [pieces, bind_eq_ok]
  constructor
  · rintro ⟨⟨stacked, mode⟩, ran, finished⟩
    cases mode <;> cases finished
    rw [ran, List.reverse_reverse]
  · intro ran
    exact ⟨_, ran, by simp [Reading.finish]⟩

/-- Two templates that can be read can be read one after the other. -/
theorem pieces_append {firstRead secondRead : List Piece} (readsFirst : pieces first = .ok firstRead)
    (readsSecond : pieces second = .ok secondRead) :
    pieces (first ++ second) = .ok (firstRead ++ secondRead) := by
  rw [pieces_eq_ok] at readsFirst readsSecond ⊢
  calc (first ++ second).foldlM Reading.step Reading.start
      = second.foldlM Reading.step (Reading.start.after firstRead.reverse) := by
        rw [List.foldlM_append, readsFirst]
        rfl
    _ = .ok (Reading.after firstRead.reverse ⟨secondRead.reverse, .text⟩) := by
        rw [Reading.foldlM_step_after, readsSecond]
        rfl
    _ = .ok ⟨(firstRead ++ secondRead).reverse, .text⟩ := by
        rw [List.reverse_append]
        rfl

theorem substitute_append {firstText secondText : Text} {values : Fields}
    (writesFirst : substitute first values = .ok firstText)
    (writesSecond : substitute second values = .ok secondText) :
    substitute (first ++ second) values = .ok (firstText ++ secondText) := by
  simp only [substitute, bind_eq_ok, mapError_eq_ok, pure_eq_ok] at writesFirst writesSecond ⊢
  rcases writesFirst with ⟨firstRead, readsFirst, firstParts, writesFirst, rfl⟩
  rcases writesSecond with ⟨secondRead, readsSecond, secondParts, writesSecond, rfl⟩
  refine ⟨firstRead ++ secondRead, pieces_append readsFirst readsSecond, firstParts ++ secondParts, ?_, ?_⟩
  · rw [List.mapM_append, writesFirst, writesSecond]
    rfl
  · exact List.flatten_append

end Append

/-! ### Parts -/

/-- A literal inside a template, where each brace is written twice. -/
def doubledBraces (text : Text) : Text :=
  text.flatMap fun point : CodePoint =>
    if point = '\x7b' ∨ point = '\x7d' then [point, point] else [point]

/-- A part from which a template can be put together. -/
inductive Part where
  /-- A text that stands for itself. -/
  | literal (text : Text)
  /-- A name that stands for a text. -/
  | named (name value : Text)
deriving DecidableEq, Repr

/-- A part inside a template. -/
def Part.template : Part → Text
  | .literal text => doubledBraces text
  | .named name _ => .scalar '\x7b' :: (name ++ [.scalar '\x7d'])

/-- The text that a part stands for. -/
def Part.text : Part → Text
  | .literal text => text
  | .named _ value => value

/-- A code point without a meaning in the name of a token. -/
def IsNamePoint (point : CodePoint) : Prop :=
  point ≠ '\x7b' ∧ point ≠ '\x7d' ∧ point ≠ '[' ∧ point ≠ '.' ∧ point ≠ ':' ∧ point ≠ '!'

instance (point : CodePoint) : Decidable (IsNamePoint point) :=
  inferInstanceAs (Decidable (_ ∧ _ ∧ _ ∧ _ ∧ _ ∧ _))

/-- A plain name, with the text that the values have for it. -/
structure IsNamed (values : Fields) (name value : Text) : Prop where
  nonempty : name ≠ []
  notDigits : ∃ point ∈ name, point.isDigit = false
  points : ∀ point ∈ name, IsNamePoint point
  given : values.get? name = some (.text value)

/-- A part can stand in a template for which there are the values. -/
def Part.Fits (values : Fields) : Part → Prop
  | .literal _ => True
  | .named name value => IsNamed values name value

theorem pieces_doubledBraces (text : Text) : pieces (doubledBraces text) = .ok (text.map .literal) := by
  induction text with
  | nil => rfl
  | cons point rest ih =>
    have alone : pieces (if point = '\x7b' ∨ point = '\x7d' then [point, point] else [point]) =
        .ok [.literal point] := by
      split_ifs with isBrace
      · rcases isBrace with rfl | rfl <;> rfl
      · rcases not_or.mp isBrace with ⟨notOpen, notClose⟩
        simp [pieces_eq_ok, Reading.step, Reading.start, Reading.literal, notOpen, notClose, pure,
          Except.pure]
    exact pieces_append alone ih

theorem substitute_doubledBraces (text : Text) (values : Fields) :
    substitute (doubledBraces text) values = .ok text := by
  have written : (text.map Piece.literal).mapM (Piece.substitute values) = .ok (text.map List.singleton) := by
    rw [mapM_eq_ok, List.forall₂_map_left_iff, List.forall₂_map_right_iff, List.forall₂_same]
    exact fun point _ => rfl
  simp only [substitute, pieces_doubledBraces, bind_eq_ok, mapError_eq_ok, pure_eq_ok]
  exact ⟨_, rfl, _, written, List.flatMap_singleton' text⟩

theorem Reading.stepName_of_isNamePoint {reading : Reading} {name : Text} {point : CodePoint}
    (plain : IsNamePoint point) :
    reading.stepName name point = .ok { reading with mode := .name (point :: name) } := by
  rcases plain with ⟨notOpen, notClose, notBracket, -, notColon, notMark⟩
  simp [Reading.stepName, notOpen, notClose, notBracket, notColon, notMark]

theorem Reading.foldlM_step_name {read : List Piece} {earlier name : Text}
    (plain : ∀ point ∈ name, IsNamePoint point) :
    name.foldlM Reading.step ⟨read, .name earlier⟩ = .ok ⟨read, .name (name.reverse ++ earlier)⟩ := by
  induction name generalizing earlier with
  | nil => rfl
  | cons point rest ih =>
    have stepped : Reading.step ⟨read, .name earlier⟩ point = .ok ⟨read, .name (point :: earlier)⟩ :=
      Reading.stepName_of_isNamePoint (plain point List.mem_cons_self)
    rw [List.foldlM_cons, stepped, List.reverse_cons, List.append_assoc]
    exact ih fun other isLater => plain other (List.mem_cons_of_mem _ isLater)

variable {values : Fields} {name value : Text}

theorem IsNamed.isPlainName (named : IsNamed values name value) : isPlainName name = true := by
  have noPeriod : .scalar '.' ∉ name := fun inside => (named.points _ inside).2.2.2.1 rfl
  have noBracket : .scalar '[' ∉ name := fun inside => (named.points _ inside).2.2.1 rfl
  simp [Template.isPlainName, named.nonempty, named.notDigits, noPeriod, noBracket]

theorem pieces_named (named : IsNamed values name value) :
    pieces (Part.named name value).template = .ok [.token ⟨name, none, []⟩] := by
  rw [pieces_eq_ok]
  cases name with
  | nil => exact absurd rfl named.nonempty
  | cons point rest =>
    -- The first point is read where the brace before it might still be doubled, and the others inside a name.
    have plain := named.points point List.mem_cons_self
    have opened : Reading.step ⟨[], .opened⟩ point = .ok ⟨[], .name [point]⟩ := by
      simp only [Reading.step, if_neg plain.1]
      exact Reading.stepName_of_isNamePoint plain
    have named : rest.foldlM Reading.step ⟨[], .name [point]⟩ = .ok ⟨[], .name (rest.reverse ++ [point])⟩ :=
      Reading.foldlM_step_name fun other isLater => named.points other (List.mem_cons_of_mem _ isLater)
    calc (Part.named (point :: rest) value).template.foldlM Reading.step Reading.start
        = (rest ++ [CodePoint.scalar '\x7d']).foldlM Reading.step ⟨[], .name [point]⟩ := by
          rw [Part.template, List.foldlM_cons, List.cons_append]
          show (_ :: (rest ++ _)).foldlM Reading.step ⟨[], .opened⟩ = _
          rw [List.foldlM_cons, opened]
          rfl
      _ = .ok ⟨[.token ⟨(rest.reverse ++ [point]).reverse, none, []⟩], .text⟩ := by
          rw [List.foldlM_append, named]
          rfl
      _ = _ := by simp

theorem substitute_named (named : IsNamed values name value) :
    substitute (Part.named name value).template values = .ok value := by
  have written : Token.substitute values ⟨name, none, []⟩ = .ok value := by
    rw [Token.substitute, if_pos named.isPlainName, named.given]
    rfl
  simp [substitute, pieces_named named, Piece.substitute, written, Except.mapError]

theorem Part.substitute_template {part : Part} (fits : part.Fits values) :
    substitute part.template values = .ok part.text := by
  cases part with
  | literal text => exact substitute_doubledBraces text values
  | named name value => exact substitute_named fits

/-- Parts become their texts in their order, with the values as they are, and substitution goes through
templates one after the other. -/
theorem substitute_concatenation (values : Fields) :
    (∀ parts : List Part, (∀ part ∈ parts, part.Fits values) →
      substitute (parts.flatMap Part.template) values = .ok (parts.flatMap Part.text)) ∧
    ∀ first second firstText secondText : Text,
      substitute first values = .ok firstText → substitute second values = .ok secondText →
        substitute (first ++ second) values = .ok (firstText ++ secondText) := by
  constructor
  · intro parts fit
    induction parts with
    | nil => rfl
    | cons part rest ih =>
      have here := Part.substitute_template (fit part List.mem_cons_self)
      have later := ih fun other isLater => fit other (List.mem_cons_of_mem _ isLater)
      exact substitute_append here later
  · intro first second firstText secondText
    exact substitute_append

theorem substitute_concatenation_braces :
    substitute "\x7b\x7b\x7bname\x7d\x7d\x7d" [("name", .text "\x7bname\x7d")] = .ok "\x7b\x7bname\x7d\x7d" ∧
      substitute "\x7d\x7d\x7bname\x7d" [("name", .text "\x7bname\x7d")] = .ok "\x7d\x7bname\x7d" := by
  have law := substitute_concatenation [("name", .text "\x7bname\x7d")]
  have named : IsNamed [("name", .text "\x7bname\x7d")] "name" "\x7bname\x7d" := by
    exact ⟨by decide, ⟨.scalar 'n', by decide, by decide⟩, by decide, rfl⟩
  constructor
  · refine law.1 [.literal "\x7b", .named "name" "\x7bname\x7d", .literal "\x7d"] ?_
    simp [Part.Fits, named]
  · refine law.2 "\x7d\x7d" "\x7bname\x7d" "\x7d" "\x7bname\x7d" ?_ ?_
    · decide
    · decide

end Phrasebook.Template
