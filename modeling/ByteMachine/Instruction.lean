/-
**Instructions: an opcode with its operands.**

* `Opcode.withOperands` reads a register operand by the three low bits of its byte; only the
  second operand of a load is taken as it stands.
* `Ram.fetch?` decodes the instruction at an address. Operand addresses wrap around the end of
  RAM.
* `Instruction.length` counts the bytes of an instruction; `length_withOperands` ties it to the
  high bits of the opcode.
-/

import ByteMachine.Opcode
import ByteMachine.Ram
import ByteMachine.Register

namespace ByteMachine

/-- An instruction with its operands decoded. -/
inductive Instruction where
  | halt
  /-- Take an address off the stack and go on there. -/
  | ret
  | push (source : Register)
  /-- Take a value off the stack into a register. -/
  | pop (target : Register)
  | print (source : Register)
  /-- Put the address of the next instruction on the stack and go on at a register's address. -/
  | call (address : Register)
  | jump (address : Register)
  | jumpEqual (address : Register)
  | jumpUnequal (address : Register)
  | load (target : Register) (value : UInt8)
  | alu (operation : Alu.Operation) (first second : Register)
  deriving DecidableEq, Repr

/-- The instruction that an opcode makes of the two bytes after it. -/
def Opcode.withOperands (opcode : Opcode) (first second : UInt8) : Instruction :=
  match opcode with
  | .halt => .halt
  | .ret => .ret
  | .push => .push (.ofByte first)
  | .pop => .pop (.ofByte first)
  | .print => .print (.ofByte first)
  | .call => .call (.ofByte first)
  | .jump => .jump (.ofByte first)
  | .jumpEqual => .jumpEqual (.ofByte first)
  | .jumpUnequal => .jumpUnequal (.ofByte first)
  | .load => .load (.ofByte first) second
  | .alu operation => .alu operation (.ofByte first) (.ofByte second)

/-- The instruction at an address, if the byte there is an opcode. -/
def Ram.fetch? (ram : Ram) (address : UInt8) : Option Instruction :=
  (Opcode.decode? (ram.get address)).map fun opcode =>
    opcode.withOperands (ram.get (address + 1)) (ram.get (address + 2))

/-- How many bytes an instruction takes. -/
def Instruction.length : Instruction → UInt8
  | .halt | .ret => 1
  | .load .. | .alu .. => 3
  | _ => 2

/-- An instruction takes its opcode and as many bytes as the opcode's high bits say. -/
theorem length_withOperands (opcode : Opcode) (first second : UInt8) :
    (opcode.withOperands first second).length = 1 + opcode.operandCount := by
  cases opcode with
  | alu operation => cases operation <;> rfl
  | _ => rfl

end ByteMachine
