/-
**Lines of a program text.**

* `lines` cuts a text at every line feed. A carriage return before the line feed stays in the
  line, where it is white space like any other.
* `content` is what a line says: the part before its comment, without the blanks around it.
-/

import ByteMachine.Text.Blank

namespace ByteMachine.Source

open Text (isBlank)

/-! ### Cutting a text into lines -/

/-- The lines of a text. A line feed ends a line, so the text after the last one is a line only if
it is not empty. -/
def lines : List Char → List (List Char)
  | [] => []
  | char :: rest =>
    if char = '\n' then [] :: lines rest
    else
      match lines rest with
      | [] => [[char]]
      | line :: more => (char :: line) :: more

/-! ### The content of a line -/

/-- The text without the blanks at its start and at its end. -/
def trim (text : List Char) : List Char :=
  ((text.dropWhile isBlank).reverse.dropWhile isBlank).reverse

/-- The character ends what a line says: it starts a comment or ends the line. -/
def endsContent (char : Char) : Bool := char == '#' || char == '\n'

/-- What a line says: the part before its comment, without the blanks around it. -/
def content (line : List Char) : List Char :=
  trim (line.takeWhile fun char => !endsContent char)

end ByteMachine.Source
