/-
**Values written out for inspection.**

An opcode is written as a capitalised word (`Opcode.inspect`), a machine as its program counter,
flags and registers in decimal (`Machine.inspect`); RAM is left out.
-/

import ByteMachine.Machine
import ByteMachine.Opcode

namespace ByteMachine

/-- The word for an arithmetic operation. -/
def Alu.Operation.inspect : Alu.Operation → String
  | .add => "Add"
  | .multiply => "Mul"
  | .compare => "Cmp"

/-- The word for an opcode; an arithmetic one names its operation. -/
def Opcode.inspect : Opcode → String
  | .halt => "Hlt"
  | .ret => "Ret"
  | .push => "Push"
  | .pop => "Pop"
  | .print => "Prn"
  | .call => "Call"
  | .jump => "Jmp"
  | .jumpEqual => "Jeq"
  | .jumpUnequal => "Jne"
  | .load => "Ldi"
  | .alu operation => "Alu(" ++ operation.inspect ++ ")"

/-- The state of a machine without its RAM. -/
def Machine.inspect (machine : Machine) : String :=
  "Cpu \x7b pc: " ++ toString machine.pc.toNat ++
    ", fl: Flags(" ++ toString machine.flags.bits.toNat ++ ")" ++
    ", reg: [" ++
    ", ".intercalate (machine.registers.toList.map fun value => toString value.toNat) ++
    "], .. \x7d"

end ByteMachine
