/-
**The state of the machine, and what the host may do to it.**

A machine is RAM, registers, program counter and flags. The host boots it, loads a program, reads
and writes RAM and registers by number, moves the program counter and takes a trace. Loading
either succeeds and changes RAM alone (`load_of_le`) or fails (`load_of_lt`).
-/

import ByteMachine.Fault
import ByteMachine.Ram

namespace ByteMachine

/-- The whole state of the machine. -/
structure Machine where
  ram : Ram
  /-- The registers; the last one points to the top of the stack. -/
  registers : Registers
  /-- The address of the next opcode. -/
  pc : UInt8
  flags : Flags
  deriving DecidableEq, Repr

namespace Machine

/-- The machine at boot: RAM and flags are zero and execution starts at address 0. -/
def boot : Machine := ⟨.zero, .boot, 0, .clear⟩

instance : Inhabited Machine := ⟨boot⟩

/-- The stack pointer. -/
def stackPointer (machine : Machine) : UInt8 := machine.registers.get .stackPointer

/-- The machine with a program laid over its RAM from address 0, if the program fits. -/
def load (machine : Machine) (program : List UInt8) : Except Fault Machine :=
  if program.length ≤ Ram.size then .ok { machine with ram := machine.ram.overlay program }
  else .error (.programTooLarge program.length)

/-- The machine with a new value at an address of RAM. -/
def writeRam (machine : Machine) (address : Nat) (value : UInt8) : Machine :=
  { machine with ram := machine.ram.write address value }

/-- The machine with a new value in the register with a number. -/
def writeRegister (machine : Machine) (index : Nat) (value : UInt8) :
    Except NoSuchRegister Machine :=
  (machine.registers.write index value).map fun registers => { machine with registers }

/-- The machine about to execute the instruction at an address. -/
def moveTo (machine : Machine) (address : UInt8) : Machine := { machine with pc := address }

/-- A snapshot for diagnostics; code bytes past the end of RAM show as zero. -/
def trace (machine : Machine) : Trace where
  pc := machine.pc
  flags := machine.flags
  bytes := Vector.ofFn fun offset => machine.ram.read (machine.pc.toNat + offset.val)
  registers := machine.registers

theorem load_of_le {machine : Machine} {program : List UInt8} (fits : program.length ≤ Ram.size) :
    machine.load program = .ok { machine with ram := machine.ram.overlay program } :=
  if_pos fits

theorem load_of_lt {machine : Machine} {program : List UInt8} (long : Ram.size < program.length) :
    machine.load program = .error (.programTooLarge program.length) :=
  if_neg (Nat.not_le.mpr long)

end Machine

end ByteMachine
