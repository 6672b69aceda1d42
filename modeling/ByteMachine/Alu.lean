/-
**The arithmetic unit.**

An operation takes two register values and gives either a new value for the first register or a
new value for the flags (`Operation.eval`). Sums and products are taken modulo 256. An operation
is named by its code byte (`Operation.ofByte`); every other byte is an `UnsupportedOperation`.
-/

import ByteMachine.Flags
import ByteMachine.Text.Hex

namespace ByteMachine.Alu

/-- What the unit can do with two register values. -/
inductive Operation where
  | add
  | multiply
  | compare
  deriving DecidableEq, Repr

/-- Where the result of an operation goes, and its value. -/
inductive Output where
  | register (value : UInt8)
  | flags (flags : Flags)
  deriving DecidableEq, Repr

/-- A code byte that names no operation. -/
structure UnsupportedOperation where
  code : UInt8
  deriving DecidableEq, Repr

/-- The complaint about a code byte that names no operation. -/
def UnsupportedOperation.message (error : UnsupportedOperation) : String :=
  "unsupported ALU operation " ++ Text.Hex.literal error.code

namespace Operation

/-- Every operation, by rising code. -/
def all : List Operation := [.add, .multiply, .compare]

/-- The code byte of an operation. -/
def byte : Operation → UInt8
  | .add => 0xa0
  | .multiply => 0xa2
  | .compare => 0xa7

/-- The assembler's name of an operation. -/
def mnemonic : Operation → String
  | .add => "ADD"
  | .multiply => "MUL"
  | .compare => "CMP"

/-- The result of an operation on two register values. -/
def eval (operation : Operation) (first second : UInt8) : Output :=
  match operation with
  | .add => .register (first + second)
  | .multiply => .register (first * second)
  | .compare => .flags (Flags.compare first second)

/-- The operation that a code byte names. -/
def ofByte (code : UInt8) : Except UnsupportedOperation Operation :=
  match all.find? (fun operation => operation.byte == code) with
  | some operation => .ok operation
  | none => .error ⟨code⟩

theorem ofByte_byte (operation : Operation) : ofByte operation.byte = .ok operation := by
  cases operation <;> rfl

end Operation

end ByteMachine.Alu
