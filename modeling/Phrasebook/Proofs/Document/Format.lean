import Mathlib.Data.List.Forall2
import Phrasebook.Document.Reader
import Phrasebook.Proofs.Display

/-!
# The format of resource documents

The rules of the format, said without an order of work and without the reader. An object is valid if
its key is a key, its flag is a truth value, each code has a text or none, the codes with a text are all
or none, and there is a text or a field for children. A valid object translates into one node, whose
children are the translations of the items of its array, one for one and in order.

An item that is not valid has one fault that comes first: that of an object before those of its
children, and those of earlier items before those of later ones.
-/

namespace Phrasebook.Document.Format

/-- A field is absent or null. -/
def Unset (object : Fields) (name : Text) : Prop :=
  object.get? name = none ∨ object.get? name = some .null

/-- A field has a value other than null. -/
def Holds (object : Fields) (name : Text) (value : Datum) : Prop :=
  object.get? name = some value ∧ value ≠ .null

/-- A value is an array of texts. -/
def IsLines (value : Datum) : Prop := ∃ lines : List Text, value = .list (lines.map .text)

/-- The first surrogate of a text stands at a position. -/
def FirstSurrogate (text : Text) (position : Nat) : Prop :=
  ∃ before offset after, text = before ++ CodePoint.surrogate offset :: after ∧
    before.isEncodable ∧ before.length = position

/-- What stands between the lines of a text: a break, or nothing if the flag of the object is set. -/
inductive Joiner (object : Fields) : Text → Prop
  | unflagged (absent : object.get? flagField = none) : Joiner object "\n"
  | flagged (value : Bool) (given : object.get? flagField = some (.bool value)) :
      Joiner object (if value then [] else "\n")

section Texts

variable (joiner : Text) (object : Fields) (code : Text)

/-- The text that an object gives for a code, if it gives one. -/
inductive TextOf : Option Text → Prop
  /-- A text in one piece, whatever stands in the field for lines. -/
  | piece {text : Text} (given : object.get? code = some (.text text))
      (encodable : text.isEncodable) : TextOf (some text)
  | lines {lines : List Text} (noPiece : Unset object code)
      (given : object.get? (linesField code) = some (.list (lines.map .text)))
      (nonempty : lines ≠ []) (encodable : (Text.joinWith joiner lines).isEncodable) :
      TextOf (some (Text.joinWith joiner lines))
  /-- An array without lines is no text. -/
  | noLines (noPiece : Unset object code)
      (given : object.get? (linesField code) = some (.list [])) : TextOf none
  | absent (noPiece : Unset object code) (unset : Unset object (linesField code)) : TextOf none

/-- What is wrong with the fields of an object for a code. -/
inductive TextFault : SourceFault → Prop
  | notText {value : Datum} (given : Holds object code value) (other : ∀ text, value ≠ .text text) :
      TextFault (.textNotString code)
  | surrogate {text : Text} {position : Nat} (given : object.get? code = some (.text text))
      (first : FirstSurrogate text position) : TextFault (.loneSurrogate code position)
  | notLines {value : Datum} (noPiece : Unset object code)
      (given : Holds object (linesField code) value) (other : ¬IsLines value) :
      TextFault (.linesNotStrings (linesField code))
  | surrogateInLines {lines : List Text} {position : Nat} (noPiece : Unset object code)
      (given : object.get? (linesField code) = some (.list (lines.map .text)))
      (first : FirstSurrogate (Text.joinWith joiner lines) position) :
      TextFault (.loneSurrogate (linesField code) position)

end Texts

/-- The key of a valid object. -/
structure HasKey (object : Fields) (key : Text) : Prop where
  given : object.get? keyField = some (.text key)
  valid : Key.isValid key

/-- The texts of a valid object: all codes have one or none has, and they are in the order of the
codes. -/
inductive Texts (codes : List Text) (object : Fields) : LocalTexts → Prop
  | intro {joiner : Text} {texts : LocalTexts} (given : Text → Option Text)
      (joined : Joiner object joiner)
      (read : ∀ code ∈ codes, TextOf joiner object code (given code))
      (complete : (∀ code ∈ codes, given code ≠ none) ∨ ∀ code ∈ codes, given code = none)
      (entries : texts.entries = codes.filterMap fun code => (given code).map (code, ·)) :
      Texts codes object texts

/-- What the fields of a valid object say, that for its children apart. -/
structure Head (codes : List Text) (object : Fields) (key : Text) (texts : LocalTexts) : Prop where
  keyed : HasKey object key
  read : Texts codes object texts
  content : texts.entries ≠ [] ∨ ¬Unset object childrenField

/-- The first fault in the fields of an object at an index below a parent, that for its children
apart. -/
inductive HeadFault (codes : List Text) (parent : Option Text) (index : Nat) (object : Fields) :
    Fault → Prop
  | noKey (unset : Unset object keyField) :
      HeadFault codes parent index object (.problem (.missingKey parent index))
  | notKey {value : Datum} (given : Holds object keyField value)
      (other : ∀ key, value = .text key → ¬Key.isValid key) :
      HeadFault codes parent index object (.badKey value parent)
  | flag {key : Text} {value : Datum} (keyed : HasKey object key)
      (given : object.get? flagField = some value) (other : ∀ flag, value ≠ .bool flag) :
      HeadFault codes parent index object
        (.problem (.malformedSource .flagNotBoolean (some (KeyPath.join parent key))))
  | text {key joiner code : Text} {before after : List Text} {fault : SourceFault}
      (keyed : HasKey object key) (joined : Joiner object joiner)
      (split : codes = before ++ code :: after)
      (sound : ∀ earlier ∈ before, ∃ given, TextOf joiner object earlier given)
      (wrong : TextFault joiner object code fault) :
      HeadFault codes parent index object
        (.problem (.malformedSource fault (some (KeyPath.join parent key))))
  | incomplete {key joiner : Text} (given : Text → Option Text)
      (keyed : HasKey object key) (joined : Joiner object joiner)
      (read : ∀ code ∈ codes, TextOf joiner object code (given code))
      (some : ∃ code ∈ codes, given code ≠ none) (notAll : ∃ code ∈ codes, given code = none) :
      HeadFault codes parent index object
        (.problem (.incompleteTexts (KeyPath.join parent key)
          (codes.filter fun code => (given code).isNone)
          (codes.filter fun code => (given code).isSome)))
  | empty {key joiner : Text} (keyed : HasKey object key) (joined : Joiner object joiner)
      (read : ∀ code ∈ codes, TextOf joiner object code none)
      (unset : Unset object childrenField) :
      HeadFault codes parent index object (.problem (.emptyNode (KeyPath.join parent key) codes))

/-- An item is valid and translates into a node. -/
inductive Translates (codes : List Text) : Datum → Node → Prop
  | leaf {object : Fields} {key : Text} {texts : LocalTexts}
      (head : Head codes object key texts) (unset : Unset object childrenField) :
      Translates codes (.record object) (.leaf key texts)
  | branch {object : Fields} {key : Text} {texts : LocalTexts} {items : List Datum}
      {children : List Node} (head : Head codes object key texts)
      (given : object.get? childrenField = some (.list items))
      (below : List.Forall₂ (Translates codes) items children) :
      Translates codes (.record object) (.branch key texts children)

/-- The first fault in an item at an index below a parent. -/
inductive Faulty (codes : List Text) : Option Text → Nat → Datum → Fault → Prop
  | notObject {parent : Option Text} {index : Nat} {value : Datum}
      (other : ∀ object, value ≠ .record object) :
      Faulty codes parent index value
        (.problem (.malformedSource (.notAnObject index value.kindName) parent))
  | head {parent : Option Text} {index : Nat} {object : Fields} {fault : Fault}
      (wrong : HeadFault codes parent index object fault) :
      Faulty codes parent index (.record object) fault
  | notArray {parent : Option Text} {index : Nat} {object : Fields} {key : Text}
      {texts : LocalTexts} {value : Datum} (head : Head codes object key texts)
      (given : Holds object childrenField value) (other : ∀ items, value ≠ .list items) :
      Faulty codes parent index (.record object)
        (.problem (.malformedSource (.notAnArray true) (some (KeyPath.join parent key))))
  | child {parent : Option Text} {index : Nat} {object : Fields} {key : Text}
      {texts : LocalTexts} {before after : List Datum} {item : Datum} {fault : Fault}
      (head : Head codes object key texts)
      (given : object.get? childrenField = some (.list (before ++ item :: after)))
      (sound : ∀ earlier ∈ before, ∃ node, Translates codes earlier node)
      (wrong : Faulty codes (some (KeyPath.join parent key)) before.length item fault) :
      Faulty codes parent index (.record object) fault

/-- A document is valid and translates into a forest. -/
def TranslatesDocument (codes : List Text) (data : Datum) (roots : List Node) : Prop :=
  ∃ items, data = .list items ∧ List.Forall₂ (Translates codes) items roots

/-- The first fault in a document. -/
inductive FaultyDocument (codes : List Text) : Datum → Fault → Prop
  | notArray {data : Datum} (other : ∀ items, data ≠ .list items) :
      FaultyDocument codes data (.problem (.malformedSource (.notAnArray false) none))
  | item {before after : List Datum} {item : Datum} {fault : Fault}
      (sound : ∀ earlier ∈ before, ∃ node, Translates codes earlier node)
      (wrong : Faulty codes none before.length item fault) :
      FaultyDocument codes (.list (before ++ item :: after)) fault

/-- How the reading of a document with a fault ends. What stands in the place of a key is shown in the
message, if the display follows it and can write the numbers in it; otherwise the display fails. -/
inductive EndsIn [Host] : Fault → Failure → Prop
  | problem {problem : Problem} : EndsIn (.problem problem) (.problem problem)
  | shown {key : Datum} {parent : Option Text} (followed : key.levels ≤ Host.keyDepth)
      (writable : ¬key.holdsLongInteger) :
      EndsIn (.badKey key parent) (.problem (.invalidKey key.display parent))
  | tooDeep {key : Datum} {parent : Option Text} (met : key.obstacle? Host.keyDepth = some .tooDeep) :
      EndsIn (.badKey key parent) .nestedTooDeep
  | tooLong {key : Datum} {parent : Option Text} (met : key.obstacle? Host.keyDepth = some .longInteger) :
      EndsIn (.badKey key parent) .numberUnwritable

theorem endsIn_iff [Host] {fault : Fault} {failure : Failure} :
    EndsIn fault failure ↔ failure = fault.failure := by
  cases fault with
  | problem problem =>
    constructor
    · rintro ⟨⟩
      rfl
    · rintro rfl
      exact .problem
  | badKey key parent =>
    simp only [Fault.failure, Failure.badKey]
    constructor
    · intro ends
      cases ends with
      | shown followed writable => rw [(Datum.obstacle?_eq_none key).mpr ⟨followed, writable⟩]
      | tooDeep met => rw [met]
      | tooLong met => rw [met]
    · rintro rfl
      cases met : key.obstacle? Host.keyDepth with
      | none =>
        rcases (Datum.obstacle?_eq_none key).mp met with ⟨followed, writable⟩
        exact .shown followed writable
      | some obstacle =>
        cases obstacle with
        | longInteger => exact .tooLong met
        | tooDeep => exact .tooDeep met

end Phrasebook.Document.Format
