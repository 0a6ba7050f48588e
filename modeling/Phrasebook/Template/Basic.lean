import Phrasebook.Template.Fault

/-!
# Templates

A template is literal text with tokens in braces; a doubled brace stands for itself. A token has a
name, perhaps a conversion after an exclamation mark, and perhaps a format specification after a
colon, in which braces nest.

A template is read one code point at a time. The state says what the next one may mean, so what has
been read is the result of a left fold, and two templates that each end outside a token can be read
one after the other.
-/

namespace Phrasebook.Template

/-- A replacement token. -/
structure Token where
  name : Text
  conversion : Option CodePoint
  spec : Text
deriving DecidableEq, Repr

/-- A part of a template: one code point of literal text, or a token. -/
inductive Piece where
  | literal (point : CodePoint)
  | token (token : Token)
deriving DecidableEq, Repr

/-- What the next code point of a template belongs to. -/
inductive Mode where
  /-- Literal text. -/
  | text
  /-- An opening brace has been read. -/
  | opened
  /-- A closing brace has been read. -/
  | closed
  /-- A token's name; the code points of names and specifications stand last one first. -/
  | name (read : Text)
  /-- A bracket inside a name, in which nothing but its closing bracket has a meaning. -/
  | bracket (read : Text)
  /-- The conversion of a token. -/
  | mark (name : Text)
  /-- What follows a conversion. -/
  | conversion (name : Text) (conversion : CodePoint)
  /-- A format specification and the number of its open braces. -/
  | spec (name : Text) (conversion : Option CodePoint) (depth : Nat) (read : Text)
deriving DecidableEq, Repr

/-- What has been read of a template: its pieces, last one first, and the mode. -/
structure Reading where
  pieces : List Piece
  mode : Mode
deriving DecidableEq, Repr

/-- The reading of nothing. -/
def Reading.start : Reading := ⟨[], .text⟩

/-- Adds a literal code point. -/
def Reading.literal (reading : Reading) (point : CodePoint) : Reading :=
  ⟨.literal point :: reading.pieces, .text⟩

/-- Adds a token whose name and specification have been read backwards. -/
def Reading.finishToken (reading : Reading) (name : Text) (conversion : Option CodePoint)
    (spec : Text) : Reading :=
  ⟨.token ⟨name.reverse, conversion, spec.reverse⟩ :: reading.pieces, .text⟩

/-- The conversion that a code point asks for; NUL asks for none. -/
def conversion? (point : CodePoint) : Option CodePoint :=
  if point = '\x00' then none else some point

/-- Goes on with a token's name. -/
def Reading.stepName (reading : Reading) (name : Text) (point : CodePoint) :
    Except BraceFault Reading :=
  if point = '\x7b' then .error .openInName
  else if point = '[' then .ok { reading with mode := .bracket (point :: name) }
  else if point = '\x7d' then .ok (reading.finishToken name none [])
  else if point = ':' then .ok { reading with mode := .spec name none 0 [] }
  else if point = '!' then .ok { reading with mode := .mark name }
  else .ok { reading with mode := .name (point :: name) }

/-- Goes on with one more code point. -/
def Reading.step (reading : Reading) (point : CodePoint) : Except BraceFault Reading :=
  match reading.mode with
  | .text =>
    if point = '\x7b' then .ok { reading with mode := .opened }
    else if point = '\x7d' then .ok { reading with mode := .closed }
    else .ok (reading.literal point)
  | .opened =>
    if point = '\x7b' then .ok (reading.literal point) else reading.stepName [] point
  | .closed => if point = '\x7d' then .ok (reading.literal point) else .error .singleClose
  | .name name => reading.stepName name point
  | .bracket name =>
    if point = ']' then .ok { reading with mode := .name (point :: name) }
    else .ok { reading with mode := .bracket (point :: name) }
  | .mark name => .ok { reading with mode := .conversion name point }
  | .conversion name conversion =>
    if point = '\x7d' then .ok (reading.finishToken name (conversion? conversion) [])
    else if point = ':' then .ok { reading with mode := .spec name (conversion? conversion) 0 [] }
    else .error .missingColon
  | .spec name conversion depth spec =>
    if point = '\x7b' then
      .ok { reading with mode := .spec name conversion (depth + 1) (point :: spec) }
    else if point = '\x7d' then
      match depth with
      | 0 => .ok (reading.finishToken name conversion spec)
      | depth + 1 => .ok { reading with mode := .spec name conversion depth (point :: spec) }
    else .ok { reading with mode := .spec name conversion depth (point :: spec) }

/-- The pieces of a template that ends here. -/
def Reading.finish (reading : Reading) : Except BraceFault (List Piece) :=
  match reading.mode with
  | .text => .ok reading.pieces.reverse
  | .opened => .error .singleOpen
  | .closed => .error .singleClose
  | .name _ | .bracket _ => .error .unclosedName
  | .mark _ => .error .missingConversion
  | .conversion _ _ | .spec _ _ _ _ => .error .unclosedSpec

/-- Reads a template. -/
def pieces (template : Text) : Except BraceFault (List Piece) := do
  (← template.foldlM Reading.step Reading.start).finish

end Phrasebook.Template
