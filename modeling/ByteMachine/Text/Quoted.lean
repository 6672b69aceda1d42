/-
**Text in double quotes.**

A quoted text shows every character of the text on one line. Six characters are written as a
backslash and a sign, and a character that would not be seen as itself as its code point in hex
(`encodeChar`). Those are the characters without a
printed form, the characters that a display may leave out, and the ones that are drawn onto their
neighbour (`isHidden`).
-/

import ByteMachine.Text.DefaultIgnorable
import ByteMachine.Text.GraphemeExtend
import ByteMachine.Text.Hex
import ByteMachine.Text.Unprintable

namespace ByteMachine.Text.Quoted

/-- The characters written as a backslash and a sign, each with its sign. -/
def signs : List (Char × Char) :=
  [('\x00', '0'), ('\t', 't'), ('\r', 'r'), ('\n', 'n'), ('\\', '\\'), ('"', '"')]

/-- The half-width sound marks extend a grapheme but fill a cell of their own. -/
def fillsOwnCell (char : Char) : Bool := inRanges [(0xff9e, 0xff9f)] char

/-- The character would not be seen as itself. -/
def isHidden (char : Char) : Bool :=
  extendsGrapheme char && !fillsOwnCell char || isDefaultIgnorable char || isUnprintable char

/-- A code point in braces, as lower-case hex. -/
def encodePoint (char : Char) : List Char :=
  ['\\', 'u', '\x7b'] ++ (Hex.number char.toNat).toList ++ ['\x7d']

/-- A character as it stands inside the quotes. -/
def encodeChar (char : Char) : List Char :=
  match signs.lookup char with
  | some sign => ['\\', sign]
  | none => if isHidden char then encodePoint char else [char]

/-- A text as it stands inside the quotes. -/
def encode (text : List Char) : List Char := text.flatMap encodeChar

/-- A text in double quotes. -/
def quote (text : String) : String := String.ofList ('"' :: encode text.toList ++ ['"'])

end ByteMachine.Text.Quoted
