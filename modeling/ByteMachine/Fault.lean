/-
**Faults: why a machine refuses to go on.**

A byte that is no opcode stops a run; a program longer than RAM is not loaded. `Fault.message`
words both.
-/

import ByteMachine.Trace

namespace ByteMachine

/-- What went wrong. -/
inductive Fault where
  /-- The program counter came to a byte that is no opcode; the trace is of that moment. -/
  | badInstruction (opcode : UInt8) (trace : Trace)
  | programTooLarge (length : Nat)
  deriving DecidableEq, Repr

/-- The wording of a fault. -/
def Fault.message : Fault → String
  | .badInstruction opcode trace =>
    "bad instruction " ++ Text.Hex.literal opcode ++ " at address " ++ Text.Hex.literal trace.pc
  | .programTooLarge length => s!"program is {length} bytes, but RAM only holds 256"

end ByteMachine
