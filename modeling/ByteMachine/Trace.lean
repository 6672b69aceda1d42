/-
**Traces: a snapshot of the machine for diagnostics.**

A trace holds the program counter, the flags, the three bytes from the program counter on and the
registers. Its text is one line of fixed width (`Trace.text`).
-/

import ByteMachine.Flags
import ByteMachine.Register
import ByteMachine.Text.Hex

namespace ByteMachine

/-- The parts of a machine's state that a diagnostic shows. -/
structure Trace where
  pc : UInt8
  flags : Flags
  /-- The bytes at the program counter and the two addresses after it. -/
  bytes : Vector UInt8 3
  registers : Registers
  deriving DecidableEq, Repr

namespace Trace

/-- The line of a trace: program counter, flags, code bytes and registers, in upper-case hex. -/
def text (trace : Trace) : String :=
  "TRACE: " ++ Text.Hex.upperByte trace.pc ++ " | " ++ Text.Hex.upperByte trace.flags.bits ++
    " | " ++ Text.Hex.spaced trace.bytes.toList ++ " | " ++
    Text.Hex.spaced trace.registers.toList

end Trace

end ByteMachine
