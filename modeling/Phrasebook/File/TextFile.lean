import Phrasebook.Text.Utf8

/-!
# Text files

The text of a file: its bytes read as UTF-8, with one kind of line break. A carriage return counts as a
line break, and with a line break after it as one with that.
-/

namespace Phrasebook.TextFile

/-- Writes a line break for every carriage return, and one for a carriage return with a line break. -/
def unifyBreaks : Text → Text
  | .scalar '\r' :: .scalar '\n' :: rest => .scalar '\n' :: unifyBreaks rest
  | .scalar '\r' :: rest => .scalar '\n' :: unifyBreaks rest
  | point :: rest => point :: unifyBreaks rest
  | [] => []

/-- Reads the text of a file. -/
def read (content : Utf8.Bytes) : Except Utf8.Fault Text :=
  return unifyBreaks (← Utf8.decode content)

end Phrasebook.TextFile
