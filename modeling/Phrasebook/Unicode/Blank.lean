import Phrasebook.Unicode.Ranges

/-!
# Blank characters

White space in the sense of bidirectional classes `WS`, `B` and `S` together with the space
separators. It includes the four information separators below the space.
-/

namespace Phrasebook

namespace Unicode

/-- The white space characters of Unicode 14.0. -/
def blanks : Ranges :=
  [(0x9, 0xD), (0x1C, 0x20), (0x85, 0x85), (0xA0, 0xA0), (0x1680, 0x1680), (0x2000, 0x200A),
    (0x2028, 0x2029), (0x202F, 0x202F), (0x205F, 0x205F), (0x3000, 0x3000)]

end Unicode

/-- Whether a code point is white space. -/
def CodePoint.isBlank (point : CodePoint) : Bool := Unicode.blanks.contains point

end Phrasebook
