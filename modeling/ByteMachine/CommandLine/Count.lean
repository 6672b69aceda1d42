/-
**Counts given on the command line.**

A count is an optional plus sign and decimal digits whose value fits in 64 bits. The digits are
read from the left, and the first fault decides the error: a character that is no digit, or a
value that has grown too large (`readDigits`).
-/

namespace ByteMachine.CommandLine.Count

/-- The largest count. -/
def most : Nat := UInt64.size - 1

/-- Why a text is no count. -/
inductive Fault where
  | empty
  /-- There is a character that is no digit, or a sign alone. -/
  | invalidDigit
  | tooLarge
  deriving DecidableEq, Repr

/-- The wording of a fault. -/
def Fault.message : Fault → String
  | .empty => "cannot parse integer from empty string"
  | .invalidDigit => "invalid digit found in string"
  | .tooLarge => "number too large to fit in target type"

/-- Reads on from the value of the digits before. -/
def readDigits : Nat → List Char → Except Fault Nat
  | total, [] => .ok total
  | total, char :: rest =>
    if char.isDigit then
      let next := 10 * total + (char.toNat - '0'.toNat)
      if next ≤ most then readDigits next rest else .error .tooLarge
    else .error .invalidDigit

/-- The count that a text stands for. -/
def read (text : List Char) : Except Fault Nat :=
  match text with
  | [] => .error .empty
  | char :: rest =>
    if char = '+' ∧ rest ≠ [] then readDigits 0 rest else readDigits 0 (char :: rest)

end ByteMachine.CommandLine.Count
