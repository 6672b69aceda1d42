/-
**Program texts.**

A program text holds one byte per line, written in base two; what follows a `#` is a comment and
lines without content are skipped. `parse` gives the bytes in order, or names the first line whose
content is no byte. Lines are counted from 1, the skipped ones too.
-/

import ByteMachine.Source.Line
import ByteMachine.Source.Numeral
import ByteMachine.Text.Quoted

namespace ByteMachine.Source

/-- A line whose content is no byte. -/
structure ParseError where
  /-- The number of the line, from 1. -/
  line : Nat
  text : String
  deriving DecidableEq, Repr

/-- The complaint about a line whose content is no byte. -/
def ParseError.message (error : ParseError) : String :=
  "line " ++ toString error.line ++ ": " ++
    Text.Quoted.quote error.text ++ " is not a binary byte"

/-- The bytes of lines of which the first has the given number. -/
def parseLines : Nat → List (List Char) → Except ParseError (List UInt8)
  | _, [] => .ok []
  | number, line :: more =>
    let text := content line
    if text = [] then parseLines (number + 1) more
    else
      match Numeral.read? text with
      | none => .error ⟨number, String.ofList text⟩
      | some byte => (parseLines (number + 1) more).map (byte :: ·)

/-- The bytes of a program text. -/
def parse (text : String) : Except ParseError (List UInt8) := parseLines 1 (lines text.toList)

end ByteMachine.Source
