/-
**Opcodes: the thirteen bytes that start an instruction.**

* `Opcode.byte` and `Opcode.decode?` are inverse: `decode?_eq_some_iff`.
* `Opcode.operandCount` reads the two high bits of the byte, which hold the number of operand
  bytes that follow.
-/

import ByteMachine.Alu

namespace ByteMachine

/-- What an instruction does, before its operands are known. -/
inductive Opcode where
  | halt
  | ret
  | push
  | pop
  | print
  | call
  | jump
  | jumpEqual
  | jumpUnequal
  | load
  | alu (operation : Alu.Operation)
  deriving DecidableEq, Repr

namespace Opcode

/-- Every opcode, by rising byte. -/
def all : List Opcode :=
  [.halt, .ret, .push, .pop, .print, .call, .jump, .jumpEqual, .jumpUnequal, .load] ++
    Alu.Operation.all.map .alu

/-- The byte of an opcode. -/
def byte : Opcode → UInt8
  | .halt => 0x01
  | .ret => 0x11
  | .push => 0x45
  | .pop => 0x46
  | .print => 0x47
  | .call => 0x50
  | .jump => 0x54
  | .jumpEqual => 0x55
  | .jumpUnequal => 0x56
  | .load => 0x82
  | .alu operation => operation.byte

/-- The assembler's name of an opcode. -/
def mnemonic : Opcode → String
  | .halt => "HLT"
  | .ret => "RET"
  | .push => "PUSH"
  | .pop => "POP"
  | .print => "PRN"
  | .call => "CALL"
  | .jump => "JMP"
  | .jumpEqual => "JEQ"
  | .jumpUnequal => "JNE"
  | .load => "LDI"
  | .alu operation => operation.mnemonic

/-- How many operand bytes follow: the two high bits of the opcode's byte. -/
def operandCount (opcode : Opcode) : UInt8 := opcode.byte >>> 6

/-- The opcode that a byte stands for, if it stands for one. -/
def decode? (code : UInt8) : Option Opcode :=
  all.find? fun opcode => opcode.byte == code

theorem decode?_byte (opcode : Opcode) : decode? opcode.byte = some opcode := by
  cases opcode with
  | alu operation => cases operation <;> rfl
  | _ => rfl

/-- Decoding accepts the bytes of the opcodes and nothing else. -/
theorem decode?_eq_some_iff {code : UInt8} {opcode : Opcode} :
    decode? code = some opcode ↔ opcode.byte = code := by
  constructor
  · intro found
    have holds := List.find?_some found
    exact beq_iff_eq.mp holds
  · rintro rfl
    exact decode?_byte opcode

end Opcode

end ByteMachine
