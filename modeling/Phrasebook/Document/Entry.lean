import Phrasebook.Key.Basic
import Phrasebook.Key.Path
import Phrasebook.Language.Registry
import Phrasebook.LocalTexts
import Phrasebook.Warning

/-!
# Resource objects

A resource document is an array of objects. Each has a key, and texts for all languages or for none: a
text in one piece in the field of the language's code, or in lines in its field for lines. An object
without texts must have an array of child objects. Here an object is read without its children.
-/

namespace Phrasebook.Document

/-- What an object says, with its children still to be read. -/
structure Entry where
  key : Text
  keyPath : Text
  texts : LocalTexts
  /-- The value of the field for children, unless it is absent or null. -/
  children : Option Datum

/-- What is wrong with a document: a problem, or the value of an unusable key, below a parent if it has
one. -/
inductive Fault where
  | problem (problem : Problem)
  | badKey (key : Datum) (parent : Option Text)

/-- The value of a field, unless it is absent or null. -/
def given? (object : Fields) (name : Text) : Option Datum :=
  match object.get? name with
  | none | some .null => none
  | some value => some value

/-- Reads the key of an object, which stands at an index below a parent. -/
def readKey (parent : Option Text) (index : Nat) (object : Fields) : Except Fault Text :=
  match given? object keyField with
  | none => .error (.problem (.missingKey parent index))
  | some (.text key) => if Key.isValid key then .ok key else .error (.badKey (.text key) parent)
  | some value => .error (.badKey value parent)

/-- Reads whether lines are joined without breaks. -/
def readFlag (keyPath : Text) (object : Fields) : Except Problem Bool :=
  match object.get? flagField with
  | none => .ok false
  | some (.bool value) => .ok value
  | some _ => .error (.malformedSource .flagNotBoolean (some keyPath))

/-- Refuses a text that cannot be written as UTF-8. -/
def checkText (keyPath field text : Text) : Except Problem Text :=
  match Utf8.firstSurrogate? text with
  | none => .ok text
  | some position => .error (.malformedSource (.loneSurrogate field position) (some keyPath))

/-- The lines of an array, if all its items are texts. -/
def lines? : List Datum → Option (List Text)
  | [] => some []
  | .text line :: rest => (lines? rest).map (line :: ·)
  | _ :: _ => none

/-- Reads the lines of a text. An empty array is as good as none. -/
def readLines (keyPath field : Text) (joiner : Text) (value : Datum) :
    Except Problem (Option Text) :=
  match value with
  | .list items =>
    match lines? items with
    | none => .error (.malformedSource (.linesNotStrings field) (some keyPath))
    | some [] => .ok none
    | some lines => return some (← checkText keyPath field (Text.joinWith joiner lines))
  | _ => .error (.malformedSource (.linesNotStrings field) (some keyPath))

/-- Reads the text for a code. A text in one piece comes before one in lines. -/
def readCode (keyPath : Text) (joiner : Text) (object : Fields) (code : Text) :
    Except Problem (Option Text) :=
  match given? object code with
  | some (.text text) => return some (← checkText keyPath code text)
  | some _ => .error (.malformedSource (.textNotString code) (some keyPath))
  | none =>
    match given? object (linesField code) with
    | none => .ok none
    | some value => readLines keyPath (linesField code) joiner value

/-- Reads the texts for some codes in order. -/
def readTexts (keyPath : Text) (joiner : Text) (object : Fields) (codes : List Text) :
    Except Problem LocalTexts :=
  codes.foldlM (fun texts code => do
    match ← readCode keyPath joiner object code with
    | none => return texts
    | some text => return texts.put code text) .empty

/-- Refuses texts for only some of the codes. -/
def checkComplete (keyPath : Text) (codes : List Text) (texts : LocalTexts) :
    Except Problem Unit :=
  if texts.isEmpty ∨ texts.codes.length = codes.length then .ok ()
  else
    .error (.incompleteTexts keyPath (codes.filter fun code => !texts.codes.contains code)
      texts.codes)

/-- Reads an object whose key is known. -/
def readEntry (codes : List Text) (key keyPath : Text) (object : Fields) : Except Problem Entry := do
  let flag ← readFlag keyPath object
  let texts ← readTexts keyPath (if flag then [] else "\n") object codes
  checkComplete keyPath codes texts
  let children := given? object childrenField
  if texts.isEmpty && children.isNone then throw (.emptyNode keyPath codes)
  return { key, keyPath, texts, children }

end Phrasebook.Document
