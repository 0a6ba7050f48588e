import Phrasebook.Proofs.Outcome
import Phrasebook.Template.Substitution

/-!
# Characters of substituted texts

The literals of a template are characters of the template, also those that are written twice in it. A token
that asks for neither a conversion nor a presentation writes a text as it is. So the text that substitution
makes has the characters of the template and of the values, and no others.
-/

namespace Phrasebook.Template

open Outcome

/-- A piece asks for nothing that changes the text it stands for. -/
def Piece.IsBare : Piece → Prop
  | .literal _ => True
  | .token asked => asked.conversion = none ∧ asked.spec = []

instance : DecidablePred Piece.IsBare
  | .literal _ => isTrue trivial
  | .token asked => inferInstanceAs (Decidable (asked.conversion = none ∧ asked.spec = []))

/-- The tokens of a template have names only. -/
def HasBareTokens (template : Text) : Prop :=
  ∀ read, pieces template = .ok read → ∀ piece ∈ read, piece.IsBare

instance (template : Text) : Decidable (HasBareTokens template) :=
  match reads : pieces template with
  | .ok read => decidable_of_iff (∀ piece ∈ read, piece.IsBare) (by simp [HasBareTokens, reads])
  | .error _ => isTrue (by simp [HasBareTokens, reads])

/-- The values are texts. -/
def AreTexts (values : Fields) : Prop := ∀ field ∈ values, ∃ text, field.2 = .text text

/-- A code point stands in one of the values. -/
def InValues (values : Fields) (point : CodePoint) : Prop :=
  ∃ name text, (name, .text text) ∈ values ∧ point ∈ text

theorem mem_of_mem_unescapeNewlines {text : Text} {point : CodePoint}
    (shown : point ∈ unescapeNewlines text) : point = '\n' ∨ point ∈ text := by
  fun_induction unescapeNewlines text with
  | case1 rest ih =>
    rcases List.mem_cons.mp shown with rfl | later
    · exact Or.inl rfl
    · exact (ih later).imp_right fun inRest => by simp [inRest]
  | case2 first rest _ ih =>
    rcases List.mem_cons.mp shown with rfl | later
    · exact Or.inr List.mem_cons_self
    · exact (ih later).imp_right (List.mem_cons_of_mem _)
  | case3 => cases shown

/-! ### Reading a template -/

section Reading

variable {reading next : Reading} {name : Text} {point other : CodePoint}

theorem Reading.pieces_of_stepName (stepped : reading.stepName name point = .ok next)
    (written : .literal other ∈ next.pieces) : .literal other ∈ reading.pieces := by
  unfold Reading.stepName at stepped
  split_ifs at stepped <;> cases stepped <;> simpa [Reading.finishToken] using written

/-- A step adds no other literal than the code point it reads. -/
theorem Reading.pieces_of_step (stepped : reading.step point = .ok next)
    (written : .literal other ∈ next.pieces) : other = point ∨ .literal other ∈ reading.pieces := by
  have literal : next = reading.literal point → other = point ∨ .literal other ∈ reading.pieces := by
    rintro rfl
    simpa [Reading.literal] using written
  have kept : next.pieces = reading.pieces → other = point ∨ .literal other ∈ reading.pieces := by
    intro same
    exact Or.inr (same ▸ written)
  have finished : ∀ name conversion spec, next = reading.finishToken name conversion spec →
      other = point ∨ .literal other ∈ reading.pieces := by
    rintro name conversion spec rfl
    exact Or.inr (by simpa [Reading.finishToken] using written)
  unfold Reading.step at stepped
  split at stepped
  case h_1 =>
    split_ifs at stepped <;> cases stepped
    · exact kept rfl
    · exact kept rfl
    · exact literal rfl
  case h_2 =>
    split_ifs at stepped
    · cases stepped
      exact literal rfl
    · exact Or.inr (Reading.pieces_of_stepName stepped written)
  case h_3 =>
    split_ifs at stepped
    cases stepped
    exact literal rfl
  case h_4 => exact Or.inr (Reading.pieces_of_stepName stepped written)
  case h_5 => split_ifs at stepped <;> cases stepped <;> exact kept rfl
  case h_6 =>
    cases stepped
    exact kept rfl
  case h_7 =>
    split_ifs at stepped <;> cases stepped
    · exact finished _ _ _ rfl
    · exact kept rfl
  case h_8 =>
    split_ifs at stepped
    · cases stepped
      exact kept rfl
    · split at stepped <;> cases stepped
      · exact finished _ _ _ rfl
      · exact kept rfl
    · cases stepped
      exact kept rfl

end Reading

/-- The literals of a template are characters of it. -/
theorem mem_of_literal_mem_pieces {template : Text} {read : List Piece} {point : CodePoint}
    (reads : pieces template = .ok read) (written : .literal point ∈ read) : point ∈ template := by
  rw [pieces, bind_eq_ok] at reads
  rcases reads with ⟨last, ran, finished⟩
  have kept : ∀ other, .literal other ∈ last.pieces → other ∈ template := by
    refine foldlM_keeps
      (fun reading => ∀ other, .literal other ∈ reading.pieces → other ∈ template)
      ?step ran (by simp [Reading.start])
    intro item inTemplate before after stepped earlier other inAfter
    rcases Reading.pieces_of_step stepped inAfter with rfl | inBefore
    · exact inTemplate
    · exact earlier other inBefore
  unfold Reading.finish at finished
  split at finished <;> cases finished
  exact kept point (List.mem_reverse.mp written)

/-! ### Substitution -/

/-- A token without conversion and specification writes a text as it is. -/
theorem Token.write_of_isBare {token : Token} {text : Text} (bare : (Piece.token token).IsBare) :
    token.write (.text text) = .ok text := by
  rcases token with ⟨name, conversion, spec⟩
  rcases bare with ⟨rfl, rfl⟩
  rfl

theorem Token.mem_of_substitute {token : Token} {values : Fields} {written : Text} {point : CodePoint}
    (texts : AreTexts values) (bare : (Piece.token token).IsBare)
    (replaced : token.substitute values = .ok written) (inside : point ∈ written) :
    InValues values point := by
  unfold Token.substitute at replaced
  split_ifs at replaced
  split at replaced
  · cases replaced
  · rename_i value given
    have listed : (token.name, value) ∈ values := by
      rcases List.lookup_eq_some_iff.mp given with ⟨before, after, rfl, _⟩
      simp
    rcases texts _ listed with ⟨text, same⟩
    obtain rfl : value = .text text := same
    rw [Token.write_of_isBare bare] at replaced
    cases replaced
    exact ⟨token.name, written, listed, inside⟩

/-- What is written for a template with texts under bare names stands in the template or in a value. -/
theorem mem_of_mem_substitute {template text : Text} {values : Fields} {point : CodePoint}
    (texts : AreTexts values) (bare : HasBareTokens template)
    (replaced : substitute template values = .ok text) (inside : point ∈ text) :
    point ∈ template ∨ InValues values point := by
  simp only [substitute, bind_eq_ok, mapError_eq_ok, pure_eq_ok, mapM_eq_ok] at replaced
  rcases replaced with ⟨read, reads, written, writes, rfl⟩
  rcases List.mem_flatten.mp inside with ⟨part, isPart, inPart⟩
  rcases exists_of_forall₂ writes.flip isPart with ⟨piece, isPiece, wrote⟩
  cases piece with
  | literal other =>
    cases wrote
    rw [List.mem_singleton] at inPart
    subst inPart
    exact Or.inl (mem_of_literal_mem_pieces reads isPiece)
  | token token => exact Or.inr (Token.mem_of_substitute texts (bare read reads _ isPiece) wrote inPart)

end Phrasebook.Template
