/-
**Blank characters: the 25 code points that count as white space.**

The class is wider than the blanks of ASCII: it holds the next-line control, the no-break space
and the line and paragraph separators.
-/

import ByteMachine.Text.CodePoints

namespace ByteMachine.Text

/-- The ranges of the white-space code points. -/
def blankRanges : List (Nat × Nat) :=
  [(0x9, 0xd), (0x20, 0x20), (0x85, 0x85), (0xa0, 0xa0), (0x1680, 0x1680), (0x2000, 0x200a),
    (0x2028, 0x2029), (0x202f, 0x202f), (0x205f, 0x205f), (0x3000, 0x3000)]

/-- The character is white space. -/
def isBlank (char : Char) : Bool := inRanges blankRanges char

end ByteMachine.Text
