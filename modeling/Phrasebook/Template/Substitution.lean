import Phrasebook.Template.Basic
import Phrasebook.Template.Presentation

/-!
# Substitution

A template becomes text by writing a value for every token. Only plain names are looked up: a name
that is empty, made of digits or holds a period or a bracket is refused. The first token that fails
decides the failure, after the braces of the whole template have been checked.
-/

namespace Phrasebook.Template

/-- Why the tokens of a template do not fit their values. -/
inductive SubstitutionFault where
  | braces (fault : BraceFault)
  | notPlain (name : Text)
  | value (name : Text) (fault : FormatFault)
  /-- A failure told in words. -/
  | told (detail : Text)
deriving DecidableEq, Repr

/-- The wording of a fault of substitution. -/
def SubstitutionFault.message : SubstitutionFault → Text
  | .braces fault => fault.message
  | .notPlain name => "'\x7b" ++ name ++ "\x7d' is not a plain token name"
  | .value name fault => "\x7b" ++ name ++ "\x7d: " ++ fault.message
  | .told detail => detail

/-- Why substitution gives no text. -/
inductive SubstitutionFailure where
  | invalid (fault : SubstitutionFault)
  /-- A token has no value. -/
  | missing (name : Text)
  /-- A number does not fit its format code. -/
  | overflow (overflow : Overflow)
deriving DecidableEq, Repr

/-- Whether a token name is looked up. -/
def isPlainName (name : Text) : Bool :=
  !name.isEmpty && !name.all CodePoint.isDigit && !name.contains (.scalar '.') &&
    !name.contains (.scalar '[')

/-- The text for a value under a token. -/
def Token.write (token : Token) (value : Datum) : Except PresentationFault Text := do
  let converted ← match token.conversion with
    | none => pure value
    | some conversion => (convert conversion value).mapError .format
  present token.spec converted

/-- The text for a token. -/
def Token.substitute (values : Fields) (token : Token) : Except SubstitutionFailure Text :=
  if isPlainName token.name then
    match values.get? token.name with
    | none => .error (.missing token.name)
    | some value =>
      match token.write value with
      | .ok text => .ok text
      | .error (.format fault) => .error (.invalid (.value token.name fault))
      | .error (.overflow overflow) => .error (.overflow overflow)
  else .error (.invalid (.notPlain token.name))

/-- The text for a piece. -/
def Piece.substitute (values : Fields) : Piece → Except SubstitutionFailure Text
  | .literal point => .ok [point]
  | .token replaced => replaced.substitute values

/-- The text of a template with values for its tokens. -/
def substitute (template : Text) (values : Fields) : Except SubstitutionFailure Text := do
  let pieces ← (pieces template).mapError fun fault => .invalid (.braces fault)
  return (← pieces.mapM (Piece.substitute values)).flatten

/-- Writes a line break for every backslash that is followed by an `n`. -/
def unescapeNewlines : Text → Text
  | .scalar '\\' :: .scalar 'n' :: rest => .scalar '\n' :: unescapeNewlines rest
  | point :: rest => point :: unescapeNewlines rest
  | [] => []

end Phrasebook.Template
