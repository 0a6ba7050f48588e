import Phrasebook.Text.CodePoint

/-!
# Texts

A text is the list of its code points. The operations here are the ones that resource keys, texts
and messages need: cutting at a separator, replacing, joining and trimming. Lengths and positions
count code points.
-/

namespace Phrasebook

/-- A sequence of code points. -/
abbrev Text := List CodePoint

namespace Text

/-- The text of a string, which holds scalar values only. -/
def ofString (string : String) : Text :=
  string.toList.map .scalar

instance : Coe String Text := ⟨ofString⟩

/-- The scalar values of a text; surrogates have no place in a string and are left out. -/
def toString (text : Text) : String :=
  String.ofList (text.filterMap fun
    | .scalar char => some char
    | .surrogate _ => none)

/-- The texts one after another. -/
def concat (parts : List Text) : Text := parts.flatten

/-- The texts one after another, with a separator between neighbours. -/
def joinWith (separator : Text) : List Text → Text
  | [] => []
  | first :: rest => first ++ (rest.map (separator ++ ·)).flatten

/-- Writes `replacement` for every occurrence of one code point. -/
def replace (text : Text) (target : CodePoint) (replacement : Text) : Text :=
  text.flatMap fun point => if point = target then replacement else [point]

/-- The piece before the first separator, and the text after that separator if there is one. -/
def cut (separator : CodePoint) : Text → Text × Option Text
  | [] => ([], none)
  | point :: rest =>
    if point = separator then ([], some rest)
    else
      let (piece, after) := cut separator rest
      (point :: piece, after)

/-- The pieces between separators; there is always one more piece than separators. -/
def splitOn (separator : CodePoint) : Text → List Text
  | [] => [[]]
  | point :: rest =>
    match splitOn separator rest with
    | [] => [[point]]
    | piece :: pieces =>
      if point = separator then [] :: piece :: pieces else (point :: piece) :: pieces

/-- The first piece of a text cut at every separator. -/
def firstPiece (separator : CodePoint) (text : Text) : Text :=
  (cut separator text).1

/-- Drops the code points with a property from both ends. -/
def trim (isDropped : CodePoint → Bool) (text : Text) : Text :=
  ((text.dropWhile isDropped).reverse.dropWhile isDropped).reverse

/-- What is left of a text after a given beginning. -/
def dropStart? : Text → Text → Option Text
  | [], text => some text
  | _ :: _, [] => none
  | expected :: start, point :: rest => if expected = point then dropStart? start rest else none

/-- Compares texts code point by code point, a shorter text before its extensions. -/
def lexicallyBefore : Text → Text → Bool
  | [], [] => false
  | [], _ :: _ => true
  | _ :: _, [] => false
  | first :: firsts, second :: seconds =>
    if first.value < second.value then true
    else if second.value < first.value then false
    else lexicallyBefore firsts seconds

/-- Sorts texts by their code points. -/
def sort (texts : List Text) : List Text :=
  texts.mergeSort fun first second => !lexicallyBefore second first

/-- Whether a text holds no surrogate, so that it can be encoded as UTF-8. -/
def isEncodable (text : Text) : Bool := text.all fun point => !point.isSurrogate

end Text

end Phrasebook
